import TopologyVisualizer.Backend.BucketSum
import TopologyVisualizer.Framework.Sql

/-! # The PostgreSQL Repository

    `app/persistence/postgres.py` over the tables of `backend/migrations`.
    A statement is a function on the database, or, where the server is free
    to choose, a relation. A `Database` carries the constraints of the
    schema, so each statement either keeps them or fails; the transaction of
    `ingest_batch` is a function into `Except`, whose error leaves the
    database as it was.

    Text columns hold any string and are compared by code point. The CHECKs
    on `kind`, on `protocol` and on the sign of the counts are the types of
    the columns here.
-/

namespace TopologyVisualizer.Backend.Postgres

open Sql (FitsBigint)

/-! ### Rows -/

/-- A row of `ingest_batches`, without its primary key `batch_id`. -/
structure BatchRow where
  clusterId : String
  agentId : String
  observedAt : Datetime
  receivedAt : Datetime
  deriving DecidableEq

/-- The primary key of `edge_buckets`. -/
structure BucketPk where
  bucketStart : Datetime
  clusterId : String
  edge : EdgeKey
  deriving DecidableEq

/-- The key without the cluster. -/
def BucketPk.key (pk : BucketPk) : BucketKey := ⟨pk.bucketStart, pk.edge⟩

/-- `source_id = nid OR target_id = nid`. -/
def BucketPk.mentions (pk : BucketPk) (nid : String) : Bool :=
  pk.edge.sourceId = nid || pk.edge.targetId = nid

/-- The counts of the row are BIGINTs. -/
def InRange (b : Bucket) : Prop :=
  FitsBigint (some b.connectionCount) ∧ FitsBigint b.failedConnectionCount ∧
  FitsBigint (some b.connectLatencyCount) ∧ FitsBigint (some b.connectLatencySumUs) ∧
  FitsBigint b.bytesSent ∧ FitsBigint b.bytesReceived

instance (b : Bucket) : Decidable (InRange b) := inferInstanceAs (Decidable (_ ∧ _))

/-- The CHECKs of `edge_buckets`: the port, `edge_buckets_outcome_present`,
    `edge_buckets_latency_samples` and `edge_buckets_latency_sum`. -/
def Checks (pk : BucketPk) (b : Bucket) : Prop :=
  (1 ≤ pk.edge.destinationPort ∧ pk.edge.destinationPort ≤ 65535) ∧
  (0 < b.connectionCount ∨ 0 < b.failedConnectionCount.getD 0) ∧
  b.connectLatencyCount ≤ b.connectionCount ∧
  (0 < b.connectLatencyCount ∨ b.connectLatencySumUs = 0)

instance (pk : BucketPk) (b : Bucket) : Decidable (Checks pk b) :=
  inferInstanceAs (Decidable (_ ∧ _))

/-! ### The database -/

/-- The tables, with the constraints every committed state satisfies. -/
structure Database where
  ingestBatches : Dict String BatchRow
  nodes : Dict String StoredNode
  edgeBuckets : Dict BucketPk Bucket
  /-- The column `id` is the primary key of `nodes`. -/
  ids : ∀ nid n, nodes.get? nid = some n → n.id = nid
  checks : ∀ pk b, edgeBuckets.get? pk = some b → InRange b ∧ Checks pk b
  /-- The foreign keys of `edge_buckets`. -/
  references : ∀ pk b, edgeBuckets.get? pk = some b →
    nodes.contains pk.edge.sourceId = true ∧ nodes.contains pk.edge.targetId = true

namespace Database

/-- The migrated, empty schema. -/
def empty : Database where
  ingestBatches := .empty
  nodes := .empty
  edgeBuckets := .empty
  ids := by simp
  checks := by simp
  references := by simp

/-! ### The statements of `ingest_batch` -/

/-- `INSERT INTO ingest_batches ... ON CONFLICT (batch_id) DO NOTHING RETURNING batch_id`. -/
def insertBatch (db : Database) (batchId : String) (row : BatchRow) : Option Database :=
  if db.ingestBatches.contains batchId then none
  else some { db with ingestBatches := db.ingestBatches.set batchId row }

/-- The row of a batch in `ingest_batches`. -/
def batchRow (batch : IngestBatch) (receivedAt : Datetime) : BatchRow where
  clusterId := batch.clusterId
  agentId := batch.agentId
  observedAt := batch.observedAt
  receivedAt := receivedAt

/-- What the dict `nodes` of `ingest_batch` holds for an endpoint: its latest report and its
    interval in this batch. -/
def collected (entry : NodeRef × Datetime × Datetime)
    (existing : Option (NodeRef × Datetime × Datetime)) : NodeRef × Datetime × Datetime :=
  match existing with
  | none => entry
  | some (_, first, last) => (entry.1, min first entry.2.1, max last entry.2.2)

def collectNode (nodes : Dict String (NodeRef × Datetime × Datetime))
    (entry : NodeRef × Datetime × Datetime) : Dict String (NodeRef × Datetime × Datetime) :=
  nodes.upsert entry.1.id (collected entry)

/-- The endpoints of the edges, in the order the loop visits them. -/
def endpoints (edges : List EdgeObservation) : List (NodeRef × Datetime × Datetime) :=
  edges.flatMap (fun e => [(e.source, e.firstSeen, e.lastSeen), (e.target, e.firstSeen, e.lastSeen)])

def collectNodes (edges : List EdgeObservation) : Dict String (NodeRef × Datetime × Datetime) :=
  (endpoints edges).foldl collectNode .empty

/-- The row proposed for insertion into `nodes`; `$5` is both name and label. -/
def nodeRow (clusterId : String) (ref : NodeRef) (firstSeen lastSeen : Datetime) : StoredNode where
  id := ref.id
  clusterId := clusterId
  kind := ref.kind
  «namespace» := ref.namespace
  name := ref.name
  label := ref.name
  firstSeen := firstSeen
  lastSeen := lastSeen

/-- `ON CONFLICT (id) DO UPDATE SET first_seen = LEAST(..), last_seen = GREATEST(..)`. -/
def widen (old excluded : StoredNode) : StoredNode :=
  { old with
    firstSeen := min old.firstSeen excluded.firstSeen
    lastSeen := max old.lastSeen excluded.lastSeen }

/-- The row left in `nodes`: the first report names the node. -/
def upserted (row : StoredNode) (existing : Option StoredNode) : StoredNode :=
  match existing with
  | none => row
  | some old => widen old row

/-- `INSERT INTO nodes ... ON CONFLICT (id) DO UPDATE ...`. -/
def upsertNode (db : Database) (row : StoredNode) : Database :=
  { db with
    nodes := db.nodes.upsert row.id (upserted row)
    ids := by
      intro nid n hn
      rw [Dict.upsert, Dict.get?_set] at hn
      split at hn
      · next heq =>
        cases hn
        rw [heq]
        cases hold : db.nodes.get? row.id with
        | none => rfl
        | some old => exact db.ids row.id old hold
      · exact db.ids nid n hn
    references := by
      intro pk b hb
      obtain ⟨hs, ht⟩ := db.references pk b hb
      exact ⟨Dict.contains_set hs, Dict.contains_set ht⟩ }

/-- `CASE WHEN a IS NULL AND b IS NULL THEN NULL ELSE COALESCE(a, 0) + COALESCE(b, 0) END`. -/
def caseSum (a b : Option Nat) : Option Nat :=
  if a.isNone && b.isNone then none else some (a.getD 0 + b.getD 0)

/-- `DO UPDATE SET` of `edge_buckets`. -/
def doUpdate (old excluded : Bucket) : Bucket where
  connectionCount := old.connectionCount + excluded.connectionCount
  failedConnectionCount := caseSum old.failedConnectionCount excluded.failedConnectionCount
  connectLatencyCount := old.connectLatencyCount + excluded.connectLatencyCount
  connectLatencySumUs := old.connectLatencySumUs + excluded.connectLatencySumUs
  bytesSent := caseSum old.bytesSent excluded.bytesSent
  bytesReceived := caseSum old.bytesReceived excluded.bytesReceived
  firstSeen := min old.firstSeen excluded.firstSeen
  lastSeen := max old.lastSeen excluded.lastSeen

/-- The row that `INSERT INTO edge_buckets ... ON CONFLICT ... DO UPDATE` leaves at `pk`. -/
def upsertedRow (db : Database) (pk : BucketPk) (excluded : Bucket) : Bucket :=
  match db.edgeBuckets.get? pk with
  | none => excluded
  | some old => doUpdate old excluded

/-- `INSERT INTO edge_buckets ... ON CONFLICT ... DO UPDATE`. A CHECK is made of the proposed
    row also when the update replaces it. -/
def upsertBucket (db : Database) (pk : BucketPk) (excluded : Bucket) :
    Except Sql.Error Database :=
  let row := db.upsertedRow pk excluded
  if hrange : InRange row then
    if hcheck : Checks pk excluded ∧ Checks pk row then
      if hfk : db.nodes.contains pk.edge.sourceId = true ∧
          db.nodes.contains pk.edge.targetId = true then
        .ok { db with
          edgeBuckets := db.edgeBuckets.set pk row
          checks := by
            intro pk' b hb
            rw [Dict.get?_set] at hb
            split at hb
            · next heq => cases hb; rw [heq]; exact ⟨hrange, hcheck.2⟩
            · exact db.checks pk' b hb
          references := by
            intro pk' b hb
            rw [Dict.get?_set] at hb
            split at hb
            · next heq => rw [heq]; exact hfk
            · exact db.references pk' b hb }
      else .error .foreignKeyViolation
    else .error .checkViolation
  else .error .numericValueOutOfRange

/-- The primary key an observation of a cluster is filed under. -/
def pkOf (clusterId : String) (e : EdgeObservation) : BucketPk where
  bucketStart := bucketStart e.lastSeen
  clusterId := clusterId
  edge := e.key

/-- The node statements, in the order of the ids. -/
def upsertNodes (db : Database) (batch : IngestBatch) : Database :=
  let nodes := collectNodes batch.edges
  (sortOn id nodes.keys).foldl (fun db nid =>
    match nodes.get? nid with
    | none => db
    | some (ref, firstSeen, lastSeen) =>
      db.upsertNode (nodeRow batch.clusterId ref firstSeen lastSeen)) db

/-- The bucket statements, in the order of the edges. -/
def upsertBuckets (db : Database) (batch : IngestBatch) : Except Sql.Error Database :=
  batch.edges.foldlM (fun db e => db.upsertBucket (pkOf batch.clusterId e) (Bucket.ofEdge e)) db

/-- `ingest_batch`, one transaction. `receivedAt` is the `now()` of the transaction. -/
def ingestBatch (db : Database) (batch : IngestBatch) (receivedAt : Datetime) :
    Except Sql.Error (Database × IngestOutcome) :=
  match db.insertBatch batch.batchId (batchRow batch receivedAt) with
  | none => .ok (db, .alreadyIngested)
  | some gated =>
    match (gated.upsertNodes batch).upsertBuckets batch with
    | .error e => .error e
    | .ok merged => .ok (merged, .ingested)

/-! ### The statements of the queries -/

/-- The server's `lower()` and Python's `str.lower`. -/
structure Lowering where
  server : String → String
  client : String → String

/-- A row of `edge_buckets b JOIN nodes s ON .. JOIN nodes t ON ..`. -/
structure JoinedRow where
  pk : BucketPk
  bucket : Bucket
  source : StoredNode
  target : StoredNode

/-- The FROM clause of `query_edges`. -/
def joined (db : Database) : List JoinedRow :=
  let withSource := Sql.joinOn db.edgeBuckets.entries db.nodes.entries
    (fun b s => s.2.id = b.1.edge.sourceId)
  let withTarget := Sql.joinOn withSource db.nodes.entries
    (fun bs t => t.2.id = bs.1.1.edge.targetId)
  withTarget.map (fun r => ⟨r.1.1.1, r.1.1.2, r.1.2.2, r.2.2⟩)

/-- The conditions on the bucket that every query makes. -/
def bucketConditions (clusterId : String) (window : ResolvedWindow) (pk : BucketPk) :
    List Sql.Truth :=
  [some (pk.clusterId = clusterId), some (window.start ≤ pk.bucketStart),
    some (pk.bucketStart < window.end)]

/-- `if not filters.include_external: ...`. -/
def externalCondition (filters : EdgeFilters) (source target : StoredNode) : List Sql.Truth :=
  if filters.includeExternal then []
  else [Sql.Truth.and (some (source.id != externalNodeId)) (some (target.id != externalNodeId))]

/-- `if filters.namespaces: ...`: either endpoint keeps the edge. -/
def namespacesCondition (filters : EdgeFilters) (source target : StoredNode) : List Sql.Truth :=
  if filters.namespaces.isEmpty then []
  else [Sql.Truth.or (Sql.eqAny source.namespace filters.namespaces)
    (Sql.eqAny target.namespace filters.namespaces)]

/-- `if filters.kind: ...`. -/
def kindCondition (filters : EdgeFilters) (source target : StoredNode) : List Sql.Truth :=
  match filters.kind with
  | none => []
  | some kind =>
    if kind.isEmpty then []
    else [Sql.Truth.or (Sql.eq (some source.kind.name) (some kind))
      (Sql.eq (some target.kind.name) (some kind))]

/-- `if filters.query: ...`: the text is put between two wildcards, unescaped. -/
def queryCondition (lower : Lowering) (filters : EdgeFilters) (source target : StoredNode) :
    List Sql.Truth :=
  match filters.query with
  | none => []
  | some query =>
    if query.isEmpty then []
    else
      let pattern := '%' :: (lower.client query).toList ++ ['%']
      [Sql.Truth.or (some (Sql.like pattern (lower.server source.label).toList))
        (some (Sql.like pattern (lower.server target.label).toList))]

/-- The list `conditions` of `query_edges`, of one row. -/
def conditions (lower : Lowering) (clusterId : String) (window : ResolvedWindow)
    (filters : EdgeFilters) (pk : BucketPk) (source target : StoredNode) : List Sql.Truth :=
  bucketConditions clusterId window pk ++ externalCondition filters source target ++
    namespacesCondition filters source target ++ kindCondition filters source target ++
    queryCondition lower filters source target

/-- The SELECT list of `query_edges`, over one group. A group has a row, so the columns that
    are NOT NULL have a value. -/
def aggregate (key : EdgeKey) (group : List JoinedRow) : Except Sql.Error EdgeAggregate := do
  let connectionCount ← Sql.toBigint (Sql.sum (group.map (fun r => some r.bucket.connectionCount)))
  let failedConnectionCount ← Sql.toBigint
    (Sql.sum (group.map (fun r => r.bucket.failedConnectionCount)))
  let connectLatencyCount ← Sql.toBigint
    (Sql.sum (group.map (fun r => some r.bucket.connectLatencyCount)))
  let connectLatencySumUs ← Sql.toBigint
    (Sql.sum (group.map (fun r => some r.bucket.connectLatencySumUs)))
  let bytesSent ← Sql.toBigint (Sql.sum (group.map (fun r => r.bucket.bytesSent)))
  let bytesReceived ← Sql.toBigint (Sql.sum (group.map (fun r => r.bucket.bytesReceived)))
  return {
    key := key
    connectionCount := connectionCount.getD 0
    failedConnectionCount := failedConnectionCount
    connectLatencyCount := connectLatencyCount.getD 0
    connectLatencySumUs := connectLatencySumUs.getD 0
    firstSeen := (Sql.least (group.map (fun r => r.bucket.firstSeen))).getD 0
    lastSeen := (Sql.greatest (group.map (fun r => r.bucket.lastSeen))).getD 0
    bytesSent := bytesSent
    bytesReceived := bytesReceived }

/-- `query_edges`. -/
def queryEdges (lower : Lowering) (clusterId : String) (db : Database) (window : ResolvedWindow)
    (filters : EdgeFilters) : Except Sql.Error (List EdgeAggregate) := do
  let rows := db.joined.filter (fun r =>
    (Sql.Truth.all (conditions lower clusterId window filters r.pk r.source r.target)).holds)
  let aggregates ← (Sql.groupBy (fun r => r.pk.edge) rows).mapM (fun g => aggregate g.1 g.2)
  return sortOn EdgeAggregate.key aggregates

/-- `nodes_for`, for a set of ids given as a list. -/
def nodesFor (db : Database) (nodeIds : List String) : List (String × StoredNode) :=
  (db.nodes.entries.filter (fun e => e.2.id ∈ nodeIds)).map (fun e => (e.2.id, e.2))

/-- `list_namespaces`. -/
def listNamespaces (clusterId : String) (db : Database) (window : ResolvedWindow) : List String :=
  let rows := (Sql.joinOn db.edgeBuckets.entries db.nodes.entries
    (fun b n => n.2.id = b.1.edge.sourceId || n.2.id = b.1.edge.targetId)).filter (fun r =>
      (Sql.Truth.all (bucketConditions clusterId window r.1.1 ++
        [Sql.isNotNull r.2.2.namespace])).holds)
  sortOn id (rows.filterMap (fun r => r.2.2.namespace)).dedup

/-! ### The statements of `purge_expired` -/

/-- `PURGE_BATCH`. -/
def purgeBatch : Nat := 5000

/-- `SELECT ctid FROM edge_buckets WHERE bucket_start < $1`. -/
def expired (db : Database) (before : Datetime) : List BucketPk :=
  db.edgeBuckets.keys.filter (fun pk => pk.bucketStart < before)

/-- `DELETE FROM edge_buckets WHERE ctid IN ..`. -/
def deleteBuckets (db : Database) (chosen : List BucketPk) : Database :=
  { db with
    edgeBuckets := db.edgeBuckets.filter (fun pk _ => pk ∉ chosen)
    checks := by
      intro pk b hb
      rw [Dict.get?_filter, Option.filter_eq_some_iff] at hb
      exact db.checks pk b hb.1
    references := by
      intro pk b hb
      rw [Dict.get?_filter, Option.filter_eq_some_iff] at hb
      exact db.references pk b hb.1 }

/-- The bounded DELETE: the server chooses which of the expired rows the LIMIT keeps. -/
structure DeletesExpired (before : Datetime) (db : Database) (chosen : List BucketPk)
    (db' : Database) : Prop where
  distinct : chosen.Nodup
  expired : ∀ pk ∈ chosen, pk ∈ db.expired before
  limit : chosen.length = min purgeBatch (db.expired before).length
  result : db' = db.deleteBuckets chosen

/-- The loop of bounded deletes, with the number of rows it removed. -/
inductive DeletesAllExpired (before : Datetime) : Database → Database → Nat → Prop where
  | last {db db' : Database} {chosen : List BucketPk} :
      DeletesExpired before db chosen db' → chosen.length < purgeBatch →
      DeletesAllExpired before db db' chosen.length
  | more {db db₁ db₂ : Database} {chosen : List BucketPk} {n : Nat} :
      DeletesExpired before db chosen db₁ → ¬ chosen.length < purgeBatch →
      DeletesAllExpired before db₁ db₂ n →
      DeletesAllExpired before db db₂ (chosen.length + n)

/-- `DELETE` of one node row, and what ON DELETE CASCADE does to `edge_buckets`. -/
def deleteNode (db : Database) (nid : String) : Database :=
  { db with
    nodes := db.nodes.filter (fun id _ => id != nid)
    edgeBuckets := db.edgeBuckets.filter (fun pk _ => !pk.mentions nid)
    ids := by
      intro id n hn
      rw [Dict.get?_filter, Option.filter_eq_some_iff] at hn
      exact db.ids id n hn.1
    checks := by
      intro pk b hb
      rw [Dict.get?_filter, Option.filter_eq_some_iff] at hb
      exact db.checks pk b hb.1
    references := by
      intro pk b hb
      rw [Dict.get?_filter, Option.filter_eq_some_iff] at hb
      obtain ⟨hs, ht⟩ := db.references pk b hb.1
      have hm := hb.2
      simp only [BucketPk.mentions, Bool.not_eq_true', Bool.or_eq_false_iff,
        decide_eq_false_iff_not] at hm
      simp only [Dict.contains, Dict.get?_filter, Option.isSome_filter] at hs ht ⊢
      obtain ⟨n, hn⟩ := Option.isSome_iff_exists.mp hs
      obtain ⟨m, hm'⟩ := Option.isSome_iff_exists.mp ht
      rw [hn, hm']
      simp [hm.1, hm.2] }

/-- `NOT EXISTS (SELECT 1 FROM edge_buckets b WHERE b.source_id = n.id OR b.target_id = n.id)`. -/
def isOrphan (db : Database) (nid : String) : Bool :=
  !db.edgeBuckets.keys.any (fun pk => pk.mentions nid)

/-- The rows the orphan DELETE selects. -/
def orphans (db : Database) : List String := db.nodes.keys.filter db.isOrphan

/-- `DELETE FROM nodes .. RETURNING 1`, and the count of it, when nothing runs beside it. -/
def deleteOrphans (db : Database) : Database × Nat :=
  (db.orphans.foldl deleteNode db, db.orphans.length)

/-- `DELETE FROM ingest_batches WHERE received_at < $1`. -/
def deleteBatches (db : Database) (before : Datetime) : Database :=
  { db with
    ingestBatches := db.ingestBatches.filter (fun _ row => !decide (row.receivedAt < before)) }

/-- `purge_expired`, when nothing runs beside it. -/
def PurgesExpired (before : Datetime) (db db' : Database) (stats : PurgeStats) : Prop :=
  ∃ db₁, DeletesAllExpired before db db₁ stats.edgeBucketsDeleted ∧
    stats.nodesDeleted = db₁.deleteOrphans.2 ∧
    db' = db₁.deleteOrphans.1.deleteBatches before

end Database

end TopologyVisualizer.Backend.Postgres
