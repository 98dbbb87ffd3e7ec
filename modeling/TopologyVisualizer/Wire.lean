import TopologyVisualizer.Agent.Contract
import TopologyVisualizer.Backend.Memory
import TopologyVisualizer.Framework.Json

/-! # The Wire

    A batch on its way from the agent to the backend: `json.Marshal` of the
    Go structs with their tags, Pydantic's validation of the body
    (`app/domain/models.py`), the ingest route (`app/api/routes.py`) over a
    repository, and the outcome `post` reads off the status code.

    `parse_marshal` is the round trip: a batch `Validate` accepts, with
    instants both sides can write, arrives as the batch that was sent, as
    long as it has at most 10000 edges.
-/

namespace TopologyVisualizer.Wire

open Json

/-! ### Encoding -/

/-- January 1 of year 0, and of year 10000: outside of these Go refuses to marshal a time. -/
def yearZero : Int := -62167219200000000000
def yearTenThousand : Int := 253402300800000000000

/-- `Time.MarshalJSON`. -/
def marshalTime (t : GoTime) : Except String Json :=
  if yearZero ≤ t.wall ∧ t.wall < yearTenThousand then .ok (.time t.wall)
  else .error "Time.MarshalJSON: year outside of range [0,9999]"

/-- A pointer without `omitempty`: null when nil. -/
def marshalNullable (value : Option String) : Json :=
  match value with
  | none => .null
  | some s => .str s

/-- A pointer with `omitempty`: left out when nil. -/
def omitNil (name : String) (value : Option Int) : List (String × Json) :=
  match value with
  | none => []
  | some n => [(name, .int n)]

/-- An integer with `omitempty`: left out when zero. -/
def omitZero (name : String) (value : Int) : List (String × Json) :=
  if value = 0 then [] else [(name, .int value)]

def marshalNodeRef (n : Agent.NodeRef) : Json :=
  .obj [("id", .str n.id), ("kind", .str n.kind), ("namespace", marshalNullable n.namespace),
    ("name", .str n.name)]

def marshalEdge (e : Agent.EdgeObservation) : Except String Json := do
  let firstSeen ← marshalTime e.firstSeen
  let lastSeen ← marshalTime e.lastSeen
  return .obj
    ([("source", marshalNodeRef e.source), ("target", marshalNodeRef e.target),
      ("protocol", .str e.protocol), ("destination_port", .int e.destinationPort),
      ("connection_count", .int e.connectionCount)] ++
    omitNil "failed_connection_count" e.failedConnectionCount ++
    omitZero "connect_latency_count" e.connectLatencyCount ++
    omitZero "connect_latency_sum_us" e.connectLatencySumUS ++
    omitNil "bytes_sent" e.bytesSent ++
    omitNil "bytes_received" e.bytesReceived ++
    [("first_seen", firstSeen), ("last_seen", lastSeen)])

/-- `json.Marshal(&batch)`. -/
def marshal (b : Agent.IngestBatch) : Except String Json := do
  let observedAt ← marshalTime b.observedAt
  let edges ← b.edges.mapM marshalEdge
  return .obj
    [("schema_version", .int b.schemaVersion), ("cluster_id", .str b.clusterID),
      ("agent_id", .str b.agentID), ("batch_id", .str b.batchID), ("observed_at", observedAt),
      ("interval_seconds", .int b.intervalSeconds), ("edges", .arr edges)]

/-! ### Decoding -/

/-- `datetime.min`, in nanoseconds: January 1 of year 1. -/
def yearOne : Int := -62135596800000000000

/-- `AwareDatetime`: a fraction finer than a microsecond is cut off. -/
def readDatetime (j : Json) : Option Backend.Datetime :=
  (readTime yearOne yearTenThousand j).map (fun ns => ns / 1000)

/-- `NodeRef`. -/
def parseNodeRef (j : Json) : Option Backend.NodeRef := do
  let fields ← j.object ["id", "kind", "namespace", "name"]
  let id ← required fields "id" readStr
  let kind ← required fields "kind" (fun j => (readStr j).bind Backend.NodeKind.ofName?)
  let ns ← withDefault fields "namespace" (nullable readStr) none
  let name ← required fields "name" readStr
  if h : id ≠ "" ∧ name ≠ "" then
    return { id := id, kind := kind, «namespace» := ns, name := name, id_nonempty := h.1
             name_nonempty := h.2 }
  else none

/-- The one literal of `Protocol`. -/
def readProtocol (j : Json) : Option Backend.Protocol :=
  (readStr j).bind (fun s => if s = "TCP" then some .tcp else none)

/-- The fields of an `EdgeObservation` after field validation. -/
structure EdgeInput where
  source : Backend.NodeRef
  target : Backend.NodeRef
  protocol : Backend.Protocol
  destinationPort : Nat
  connectionCount : Nat
  failedConnectionCount : Option Nat
  connectLatencyCount : Nat
  connectLatencySumUs : Nat
  bytesSent : Option Nat
  bytesReceived : Option Nat
  firstSeen : Backend.Datetime
  lastSeen : Backend.Datetime

/-- The declared fields of `EdgeObservation`. -/
def edgeFieldNames : List String :=
  ["source", "target", "protocol", "destination_port", "connection_count",
    "failed_connection_count", "connect_latency_count", "connect_latency_sum_us", "bytes_sent",
    "bytes_received", "first_seen", "last_seen"]

/-- The field validators of `EdgeObservation`. -/
def readEdge (fields : List (String × Json)) : Option EdgeInput := do
  let source ← required fields "source" parseNodeRef
  let target ← required fields "target" parseNodeRef
  let protocol ← required fields "protocol" readProtocol
  let port ← required fields "destination_port" readNat
  let count ← required fields "connection_count" readNat
  let failed ← withDefault fields "failed_connection_count" (nullable readNat) none
  let latencyCount ← withDefault fields "connect_latency_count" readNat 0
  let latencySum ← withDefault fields "connect_latency_sum_us" readNat 0
  let sent ← withDefault fields "bytes_sent" (nullable readNat) none
  let received ← withDefault fields "bytes_received" (nullable readNat) none
  let firstSeen ← required fields "first_seen" readDatetime
  let lastSeen ← required fields "last_seen" readDatetime
  return ⟨source, target, protocol, port, count, failed, latencyCount, latencySum, sent, received,
    firstSeen, lastSeen⟩

/-- The port bounds and `_check_interval`. -/
def EdgeInput.Checked (e : EdgeInput) : Prop :=
  (1 ≤ e.destinationPort ∧ e.destinationPort ≤ 65535) ∧
  (e.connectionCount ≠ 0 ∨ e.failedConnectionCount.getD 0 ≠ 0) ∧
  e.connectLatencyCount ≤ e.connectionCount ∧
  (e.connectLatencyCount = 0 → e.connectLatencySumUs = 0) ∧
  e.firstSeen ≤ e.lastSeen

instance (e : EdgeInput) : Decidable e.Checked := by
  unfold EdgeInput.Checked
  infer_instance

/-- The observation of checked fields. -/
def EdgeInput.observation (e : EdgeInput) (h : e.Checked) : Backend.EdgeObservation where
  source := e.source
  target := e.target
  protocol := e.protocol
  destinationPort := e.destinationPort
  connectionCount := e.connectionCount
  failedConnectionCount := e.failedConnectionCount
  connectLatencyCount := e.connectLatencyCount
  connectLatencySumUs := e.connectLatencySumUs
  bytesSent := e.bytesSent
  bytesReceived := e.bytesReceived
  firstSeen := e.firstSeen
  lastSeen := e.lastSeen
  port_range := h.1
  outcome_present := h.2.1
  latency_samples := h.2.2.1
  latency_sum := h.2.2.2.1
  interval := h.2.2.2.2

/-- `EdgeObservation`. -/
def parseEdge (j : Json) : Option Backend.EdgeObservation :=
  ((j.object edgeFieldNames).bind readEdge).bind (fun e =>
    if h : e.Checked then some (e.observation h) else none)

/-- `IngestBatch`, with `_check_batch_id`. -/
def parse (j : Json) : Option Backend.IngestBatch := do
  let fields ← j.object ["schema_version", "cluster_id", "agent_id", "batch_id", "observed_at",
    "interval_seconds", "edges"]
  let version ← required fields "schema_version" readInt
  let clusterId ← required fields "cluster_id" readStr
  let agentId ← required fields "agent_id" readStr
  let batchId ← required fields "batch_id" readStr
  let observedAt ← required fields "observed_at" readDatetime
  let interval ← required fields "interval_seconds" readInt
  let edges ← required fields "edges" (readList parseEdge)
  if h : clusterId ≠ "" ∧ agentId ≠ "" ∧ Backend.isUlid batchId ∧
      (1 ≤ interval ∧ interval ≤ 3600) ∧ edges.length ≤ 10000 then
    return { schemaVersion := version, clusterId := clusterId, agentId := agentId
             batchId := batchId, observedAt := observedAt, intervalSeconds := interval
             edges := edges, clusterId_nonempty := h.1, agentId_nonempty := h.2.1
             batchId_ulid := h.2.2.1, interval_range := h.2.2.2.1, edges_bound := h.2.2.2.2 }
  else none

/-! ### The route -/

/-- `settings.supported_schema_version`. -/
def supportedSchemaVersion : Int := 1

/-- `settings.max_batch_edges`. -/
def maxBatchEdges : Nat := 5000

/-- A status and the `detail` of an error. -/
structure Response where
  status : Nat
  detail : String := ""
  deriving DecidableEq

/-- The checks the route makes of a parsed batch before it touches the repository. -/
def routeCheck (batch : Backend.IngestBatch) : Option Response :=
  if batch.schemaVersion ≠ supportedSchemaVersion then
    some { status := 400
           detail := "unsupported schema_version " ++ toString batch.schemaVersion ++
             "; this release accepts " ++ toString supportedSchemaVersion }
  else if batch.edges.length > maxBatchEdges then
    some { status := 413
           detail := "batch contains " ++ toString batch.edges.length ++ " edges; limit is " ++
             toString maxBatchEdges }
  else none

/-- The status of an ingest outcome. -/
def outcomeStatus : Backend.IngestOutcome → Nat
  | .alreadyIngested => 200
  | .ingested => 202

/-- `POST /ingest/batches` over a repository. -/
def ingestRoute (repo : Backend.InMemoryRepository) (body : Json) :
    Backend.InMemoryRepository × Response :=
  match parse body with
  | none => (repo, { status := 422 })
  | some batch =>
    match routeCheck batch with
    | some refusal => (repo, refusal)
    | none =>
      let (repo', outcome) := repo.ingestBatch batch
      (repo', { status := outcomeStatus outcome })

/-! ### What `post` makes of a status -/

/-- `outcome`. -/
inductive Outcome where
  | accepted
  | duplicate
  | permanent
  | retryable
  deriving DecidableEq, Repr

/-- The switch at the end of `post`. -/
def classify (status : Nat) : Outcome :=
  if status = 200 then .duplicate
  else if status = 202 then .accepted
  else if status = 408 ∨ status = 429 ∨ status ≥ 500 then .retryable
  else if status ≥ 400 then .permanent
  else .retryable

/-! ### What arrives -/

/-- The node read is the node sent. -/
structure NodeDenotes (n : Agent.NodeRef) (r : Backend.NodeRef) : Prop where
  id : r.id = n.id
  kind : r.kind.name = n.kind
  «namespace» : r.namespace = n.namespace
  name : r.name = n.name

/-- The count read is the count sent. -/
def CountDenotes (sent : Option Int) (read : Option Nat) : Prop :=
  read.map (fun n => (n : Int)) = sent

/-- The edge read is the edge sent, its instants cut to microseconds. -/
structure EdgeDenotes (e : Agent.EdgeObservation) (o : Backend.EdgeObservation) : Prop where
  source : NodeDenotes e.source o.source
  target : NodeDenotes e.target o.target
  protocol : o.protocol.name = e.protocol
  destinationPort : (o.destinationPort : Int) = e.destinationPort
  connectionCount : (o.connectionCount : Int) = e.connectionCount
  failedConnectionCount : CountDenotes e.failedConnectionCount o.failedConnectionCount
  connectLatencyCount : (o.connectLatencyCount : Int) = e.connectLatencyCount
  connectLatencySumUS : (o.connectLatencySumUs : Int) = e.connectLatencySumUS
  bytesSent : CountDenotes e.bytesSent o.bytesSent
  bytesReceived : CountDenotes e.bytesReceived o.bytesReceived
  firstSeen : o.firstSeen = e.firstSeen.wall / 1000
  lastSeen : o.lastSeen = e.lastSeen.wall / 1000

/-- The batch read is the batch sent. -/
structure Denotes (b : Agent.IngestBatch) (r : Backend.IngestBatch) : Prop where
  schemaVersion : r.schemaVersion = b.schemaVersion
  clusterId : r.clusterId = b.clusterID
  agentId : r.agentId = b.agentID
  batchId : r.batchId = b.batchID
  observedAt : r.observedAt = b.observedAt.wall / 1000
  intervalSeconds : r.intervalSeconds = b.intervalSeconds
  edges : List.Forall₂ EdgeDenotes b.edges r.edges

/-- An instant that both sides can write. -/
def Writable (t : GoTime) : Prop := yearOne ≤ t.wall ∧ t.wall < yearTenThousand

theorem marshalTime_of_writable {t : GoTime} (h : Writable t) :
    marshalTime t = .ok (.time t.wall) := by
  have : yearZero ≤ t.wall ∧ t.wall < yearTenThousand := by
    unfold Writable yearOne at h
    unfold yearZero
    omega
  simp only [marshalTime, if_pos this]

theorem readDatetime_of_writable {t : GoTime} (h : Writable t) :
    readDatetime (.time t.wall) = some (t.wall / 1000) := by
  simp [readDatetime, readTime_time h]

/-- The agent's kinds are the backend's. -/
theorem ofName?_of_allowed {kind : String} (h : kind ∈ Agent.allowedKinds) :
    ∃ k, Backend.NodeKind.ofName? kind = some k ∧ k.name = kind := by
  simp only [Agent.allowedKinds, List.mem_cons, List.not_mem_nil, or_false] at h
  rcases h with rfl | rfl | rfl | rfl | rfl | rfl
  · exact ⟨.service, by decide, rfl⟩
  · exact ⟨.deployment, by decide, rfl⟩
  · exact ⟨.statefulSet, by decide, rfl⟩
  · exact ⟨.daemonSet, by decide, rfl⟩
  · exact ⟨.job, by decide, rfl⟩
  · exact ⟨.pod, by decide, rfl⟩

theorem nullable_marshalNullable (value : Option String) :
    nullable readStr (marshalNullable value) = some value := by
  cases value <;> rfl

theorem parseNodeRef_marshal {n : Agent.NodeRef} (h : n.Valid) :
    ∃ r, parseNodeRef (marshalNodeRef n) = some r ∧ NodeDenotes n r := by
  obtain ⟨k, hk, hname⟩ := ofName?_of_allowed h.kind_allowed
  refine ⟨{ id := n.id, kind := k, «namespace» := n.namespace, name := n.name
            id_nonempty := h.id_nonempty, name_nonempty := h.name_nonempty },
    ?_, rfl, hname, rfl, rfl⟩
  simp [parseNodeRef, marshalNodeRef, object, required, withDefault, Dict.lookup_cons_ite, readStr,
    hk, nullable_marshalNullable, h.id_nonempty, h.name_nonempty]

/-! ### Omitted fields -/

theorem lookup_omitNil (name key : String) (value : Option Int) :
    (omitNil name value).lookup key = if key = name then value.map Json.int else none := by
  cases value <;> simp [omitNil, Dict.lookup_cons_ite]

theorem lookup_omitZero (name key : String) (value : Int) :
    (omitZero name value).lookup key =
      if key = name ∧ value ≠ 0 then some (.int value) else none := by
  unfold omitZero
  by_cases h : value = 0
  · simp [h]
  · simp [h, Dict.lookup_cons_ite]

theorem all_omitNil {known : List String} {name : String} (h : name ∈ known)
    (value : Option Int) : (omitNil name value).all (fun f => f.1 ∈ known) = true := by
  cases value <;> simp [omitNil, h]

theorem all_omitZero {known : List String} {name : String} (h : name ∈ known) (value : Int) :
    (omitZero name value).all (fun f => f.1 ∈ known) = true := by
  unfold omitZero
  split <;> simp [h]

/-- A nullable count that was left out when nil reads as it was. -/
theorem withDefault_omitNil {fields : List (String × Json)} {name : String} {value : Option Int}
    (hlookup : fields.lookup name = value.map Json.int) (hnonneg : ∀ v ∈ value, 0 ≤ v) :
    ∃ r, withDefault fields name (nullable readNat) none = some r ∧ CountDenotes value r ∧
      r.getD 0 = (value.getD 0).toNat := by
  unfold withDefault
  rw [hlookup]
  cases value with
  | none => exact ⟨none, rfl, rfl, rfl⟩
  | some v =>
    have hv : 0 ≤ v := hnonneg v rfl
    refine ⟨some v.toNat, ?_, ?_, rfl⟩
    · simp [nullable, readNat_int hv]
    · simp [CountDenotes, hv]

/-- A count that was left out when zero reads as it was. -/
theorem withDefault_omitZero {fields : List (String × Json)} {name : String} {value : Int}
    (hlookup : fields.lookup name = if value ≠ 0 then some (.int value) else none)
    (hnonneg : 0 ≤ value) : withDefault fields name readNat 0 = some value.toNat := by
  unfold withDefault
  rw [hlookup]
  by_cases h : value = 0
  · simp [h]
  · simp [h, readNat_int hnonneg]

/-! ### The round trip -/

/-- The body of an edge whose instants can be written. -/
def edgeFields (e : Agent.EdgeObservation) : List (String × Json) :=
  [("source", marshalNodeRef e.source), ("target", marshalNodeRef e.target),
    ("protocol", .str e.protocol), ("destination_port", .int e.destinationPort),
    ("connection_count", .int e.connectionCount)] ++
  omitNil "failed_connection_count" e.failedConnectionCount ++
  omitZero "connect_latency_count" e.connectLatencyCount ++
  omitZero "connect_latency_sum_us" e.connectLatencySumUS ++
  omitNil "bytes_sent" e.bytesSent ++
  omitNil "bytes_received" e.bytesReceived ++
  [("first_seen", .time e.firstSeen.wall), ("last_seen", .time e.lastSeen.wall)]

theorem marshalEdge_of_writable {e : Agent.EdgeObservation} (hfirst : Writable e.firstSeen)
    (hlast : Writable e.lastSeen) : marshalEdge e = .ok (.obj (edgeFields e)) := by
  simp only [marshalEdge, marshalTime_of_writable hfirst, marshalTime_of_writable hlast]
  rfl

/-- What a lookup finds in the body of an edge. -/
structure EdgeBody (fields : List (String × Json)) (e : Agent.EdgeObservation) : Prop where
  source : fields.lookup "source" = some (marshalNodeRef e.source)
  target : fields.lookup "target" = some (marshalNodeRef e.target)
  protocol : fields.lookup "protocol" = some (.str e.protocol)
  port : fields.lookup "destination_port" = some (.int e.destinationPort)
  count : fields.lookup "connection_count" = some (.int e.connectionCount)
  failed : fields.lookup "failed_connection_count" = e.failedConnectionCount.map Json.int
  latencyCount : fields.lookup "connect_latency_count" =
    if e.connectLatencyCount ≠ 0 then some (.int e.connectLatencyCount) else none
  latencySum : fields.lookup "connect_latency_sum_us" =
    if e.connectLatencySumUS ≠ 0 then some (.int e.connectLatencySumUS) else none
  sent : fields.lookup "bytes_sent" = e.bytesSent.map Json.int
  received : fields.lookup "bytes_received" = e.bytesReceived.map Json.int
  firstSeen : fields.lookup "first_seen" = some (.time e.firstSeen.wall)
  lastSeen : fields.lookup "last_seen" = some (.time e.lastSeen.wall)

theorem edgeFields_body (e : Agent.EdgeObservation) : EdgeBody (edgeFields e) e := by
  constructor <;>
    simp [edgeFields, List.lookup_append, lookup_omitNil, lookup_omitZero, Dict.lookup_cons_ite]

theorem edgeFields_known (e : Agent.EdgeObservation) :
    (edgeFields e).all (fun f => f.1 ∈ edgeFieldNames) := by
  unfold edgeFields
  simp only [List.all_append, Bool.and_eq_true]
  refine ⟨⟨⟨⟨⟨⟨rfl, ?_⟩, ?_⟩, ?_⟩, ?_⟩, ?_⟩, rfl⟩
  · exact all_omitNil (by decide) _
  · exact all_omitZero (by decide) _
  · exact all_omitZero (by decide) _
  · exact all_omitNil (by decide) _
  · exact all_omitNil (by decide) _

/-- **One edge**: what `Validate` accepts, Pydantic accepts and reads as it was sent. -/
theorem parseEdge_edgeFields {e : Agent.EdgeObservation} (h : e.Valid)
    (hfirst : Writable e.firstSeen) (hlast : Writable e.lastSeen)
    (horder : e.firstSeen.wall ≤ e.lastSeen.wall) :
    ∃ o, parseEdge (.obj (edgeFields e)) = some o ∧ EdgeDenotes e o := by
  have hbody := edgeFields_body e
  have hobject : (Json.obj (edgeFields e)).object edgeFieldNames = some (edgeFields e) := by
    simp only [object, edgeFields_known, if_true]
  generalize edgeFields e = fields at hbody hobject ⊢
  obtain ⟨s, hs, hsd⟩ := parseNodeRef_marshal h.source
  obtain ⟨t, ht, htd⟩ := parseNodeRef_marshal h.target
  obtain ⟨failed, hfailed, hfd, hfzero⟩ := withDefault_omitNil hbody.failed h.failed_nonneg
  obtain ⟨sent, hsent, hsentd, -⟩ := withDefault_omitNil hbody.sent h.sent_nonneg
  obtain ⟨received, hreceived, hreceivedd, -⟩ :=
    withDefault_omitNil hbody.received h.received_nonneg
  obtain ⟨hlc, hlcle, hls, hlzero⟩ := h.latency
  have hport := h.port_range
  have hcount := h.outcome_present.1
  let input : EdgeInput := ⟨s, t, .tcp, e.destinationPort.toNat, e.connectionCount.toNat, failed,
    e.connectLatencyCount.toNat, e.connectLatencySumUS.toNat, sent, received,
    e.firstSeen.wall / 1000, e.lastSeen.wall / 1000⟩
  have hread : readEdge fields = some input := by
    simp only [readEdge, required, hbody.source, hbody.target, hbody.protocol, hbody.port,
      hbody.count, hbody.firstSeen, hbody.lastSeen, hs, ht, hfailed, hsent, hreceived,
      withDefault_omitZero hbody.latencyCount hlc, withDefault_omitZero hbody.latencySum hls,
      readProtocol, readStr, h.protocol, Agent.protocolTCP, readNat_int hcount,
      readNat_int (show 0 ≤ e.destinationPort by omega), readDatetime_of_writable hfirst,
      readDatetime_of_writable hlast, Option.bind_some, Option.bind_eq_bind, if_true]
    rfl
  have hchecked : input.Checked := by
    refine ⟨?_, ?_, ?_, ?_, ?_⟩ <;> simp only [input]
    · omega
    · rcases h.outcome_present.2 with hne | ⟨f, hf, hfne⟩
      · exact .inl (by omega)
      · right
        have hf0 := h.failed_nonneg f hf
        rw [hfzero, Option.mem_def.mp hf, Option.getD_some]
        omega
    · omega
    · omega
    · exact Int.ediv_le_ediv (by decide) horder
  refine ⟨input.observation hchecked, ?_,
    ⟨hsd, htd, h.protocol.symm, Int.toNat_of_nonneg (by omega), Int.toNat_of_nonneg hcount,
      hfd, Int.toNat_of_nonneg hlc, Int.toNat_of_nonneg hls, hsentd, hreceivedd, rfl, rfl⟩⟩
  simp only [parseEdge, hobject, Option.bind_some, hread, dif_pos hchecked]

/-- Every instant of the batch can be written, and the edges are ordered on the wall clock. -/
structure Sendable (b : Agent.IngestBatch) : Prop where
  observedAt : Writable b.observedAt
  edges : ∀ e ∈ b.edges, Writable e.firstSeen ∧ Writable e.lastSeen ∧
    e.firstSeen.wall ≤ e.lastSeen.wall

/-- The body of a batch whose instants can be written. -/
def batchFields (b : Agent.IngestBatch) : List (String × Json) :=
  [("schema_version", .int b.schemaVersion), ("cluster_id", .str b.clusterID),
    ("agent_id", .str b.agentID), ("batch_id", .str b.batchID),
    ("observed_at", .time b.observedAt.wall), ("interval_seconds", .int b.intervalSeconds),
    ("edges", .arr (b.edges.map (fun e => .obj (edgeFields e))))]

theorem mapM_marshalEdge {es : List Agent.EdgeObservation}
    (h : ∀ e ∈ es, Writable e.firstSeen ∧ Writable e.lastSeen) :
    es.mapM marshalEdge = .ok (es.map (fun e => .obj (edgeFields e))) := by
  induction es with
  | nil => rfl
  | cons e es ih =>
    obtain ⟨hfirst, hlast⟩ := h e List.mem_cons_self
    rw [List.mapM_cons, marshalEdge_of_writable hfirst hlast,
      ih (fun e' he' => h e' (List.mem_cons_of_mem _ he'))]
    rfl

theorem marshal_of_sendable {b : Agent.IngestBatch} (h : Sendable b) :
    marshal b = .ok (.obj (batchFields b)) := by
  have hedges := mapM_marshalEdge (fun e he => ⟨(h.edges e he).1, (h.edges e he).2.1⟩)
  simp only [marshal, marshalTime_of_writable h.observedAt, hedges]
  rfl

/-- The edges of a valid, sendable batch are all read. -/
theorem readList_edges {b : Agent.IngestBatch} (hvalid : b.Valid) (hsend : Sendable b) :
    ∃ os, readList parseEdge (.arr (b.edges.map (fun e => .obj (edgeFields e)))) = some os ∧
      List.Forall₂ EdgeDenotes b.edges os := by
  have hitems : ∀ e ∈ b.edges,
      ∃ o, parseEdge (.obj (edgeFields e)) = some o ∧ EdgeDenotes e o := by
    intro e he
    obtain ⟨hfirst, hlast, horder⟩ := hsend.edges e he
    exact parseEdge_edgeFields (hvalid.edges e he) hfirst hlast horder
  obtain ⟨os, hos, hall⟩ := mapM_eq_some_of_forall hitems
  refine ⟨os, ?_, hall⟩
  simp only [readList, List.mapM_map]
  exact hos

theorem parse_batchFields {b : Agent.IngestBatch} (hvalid : b.Valid) (hsend : Sendable b)
    {os : List Backend.EdgeObservation}
    (hos : readList parseEdge (.arr (b.edges.map (fun e => .obj (edgeFields e)))) = some os) :
    parse (.obj (batchFields b)) =
      if h : os.length ≤ 10000 then
        some { schemaVersion := b.schemaVersion, clusterId := b.clusterID, agentId := b.agentID
               batchId := b.batchID, observedAt := b.observedAt.wall / 1000
               intervalSeconds := b.intervalSeconds, edges := os
               clusterId_nonempty := hvalid.clusterID_nonempty
               agentId_nonempty := hvalid.agentID_nonempty
               batchId_ulid := hvalid.batchID_ulid, interval_range := hvalid.interval_range
               edges_bound := h }
      else none := by
  have hulid : Backend.isUlid b.batchID = true := hvalid.batchID_ulid
  have hknown : (batchFields b).all (fun f => f.1 ∈ ["schema_version", "cluster_id", "agent_id",
      "batch_id", "observed_at", "interval_seconds", "edges"]) = true := rfl
  have hlookups : (batchFields b).lookup "schema_version" = some (.int b.schemaVersion) ∧
      (batchFields b).lookup "cluster_id" = some (.str b.clusterID) ∧
      (batchFields b).lookup "agent_id" = some (.str b.agentID) ∧
      (batchFields b).lookup "batch_id" = some (.str b.batchID) ∧
      (batchFields b).lookup "observed_at" = some (.time b.observedAt.wall) ∧
      (batchFields b).lookup "interval_seconds" = some (.int b.intervalSeconds) ∧
      (batchFields b).lookup "edges" =
        some (.arr (b.edges.map (fun e => .obj (edgeFields e)))) :=
    ⟨rfl, rfl, rfl, rfl, rfl, rfl, rfl⟩
  generalize batchFields b = fields at hknown hlookups ⊢
  obtain ⟨h₁, h₂, h₃, h₄, h₅, h₆, h₇⟩ := hlookups
  simp only [parse, object, hknown, if_true, required, h₁, h₂, h₃, h₄, h₅, h₆, h₇, hos, readInt,
    readStr, readDatetime_of_writable hsend.observedAt, Option.bind_some, Option.bind_eq_bind]
  by_cases h : os.length ≤ 10000
  · rw [dif_pos h, dif_pos ⟨hvalid.clusterID_nonempty, hvalid.agentID_nonempty, hulid,
      hvalid.interval_range, h⟩]
    rfl
  · rw [dif_neg h, dif_neg (fun hc => h hc.2.2.2.2)]

/-- **The round trip**: a valid, sendable batch of at most 10000 edges is read as it was sent. -/
theorem parse_marshal {b : Agent.IngestBatch} (hvalid : b.Valid) (hsend : Sendable b)
    (hlen : b.edges.length ≤ 10000) :
    ∃ r, parse (.obj (batchFields b)) = some r ∧ Denotes b r := by
  obtain ⟨os, hos, hall⟩ := readList_edges hvalid hsend
  have hos' : os.length ≤ 10000 := hall.length_eq ▸ hlen
  rw [parse_batchFields hvalid hsend hos, dif_pos hos']
  exact ⟨_, rfl, rfl, rfl, rfl, rfl, rfl, rfl, hall⟩

/-- What arrives has as many edges as were sent, so more than 10000 do not arrive. -/
theorem parse_eq_none_of_length {b : Agent.IngestBatch} (hvalid : b.Valid) (hsend : Sendable b)
    (hlen : 10000 < b.edges.length) : parse (.obj (batchFields b)) = none := by
  obtain ⟨os, hos, hall⟩ := readList_edges hvalid hsend
  have hos' : ¬os.length ≤ 10000 := by rw [← hall.length_eq]; omega
  rw [parse_batchFields hvalid hsend hos, dif_neg hos']

/-! ### Ids and keys on the wire -/

/-- What is read from a body comes from its fields. -/
theorem required_of_parse {fields : List (String × Json)} {r : Backend.IngestBatch}
    (h : parse (.obj fields) = some r) :
    required fields "batch_id" readStr = some r.batchId ∧
    required fields "edges" (readList parseEdge) = some r.edges := by
  unfold parse at h
  obtain ⟨fs, hobject, h⟩ := Option.bind_eq_some_iff.mp h
  obtain ⟨version, -, h⟩ := Option.bind_eq_some_iff.mp h
  obtain ⟨clusterId, -, h⟩ := Option.bind_eq_some_iff.mp h
  obtain ⟨agentId, -, h⟩ := Option.bind_eq_some_iff.mp h
  obtain ⟨batchId, hid, h⟩ := Option.bind_eq_some_iff.mp h
  obtain ⟨observedAt, -, h⟩ := Option.bind_eq_some_iff.mp h
  obtain ⟨interval, -, h⟩ := Option.bind_eq_some_iff.mp h
  obtain ⟨edges, hedges, hchecked⟩ := Option.bind_eq_some_iff.mp h
  have hfs : fs = fields := by
    simp only [object] at hobject
    split at hobject
    · exact (Option.some.inj hobject).symm
    · cases hobject
  subst hfs
  split at hchecked
  · cases hchecked
    exact ⟨hid, hedges⟩
  · cases hchecked

/-- Reading keeps the batch id, whatever else is in the body. -/
theorem batchId_of_parse {fields : List (String × Json)} {r : Backend.IngestBatch}
    (h : parse (.obj fields) = some r) : fields.lookup "batch_id" = some (.str r.batchId) := by
  have hid := (required_of_parse h).1
  simp only [required, Option.bind_eq_some_iff] at hid
  obtain ⟨j, hj, hread⟩ := hid
  rw [hj]
  cases j <;> simp [readStr] at hread
  simp [hread]

/-- The body of a batch that can be written. -/
theorem marshal_eq_ok {b : Agent.IngestBatch} {body : Json} (hbody : marshal b = .ok body) :
    ∃ observedAt edges, b.edges.mapM marshalEdge = .ok edges ∧
      body = .obj [("schema_version", .int b.schemaVersion), ("cluster_id", .str b.clusterID),
        ("agent_id", .str b.agentID), ("batch_id", .str b.batchID), ("observed_at", observedAt),
        ("interval_seconds", .int b.intervalSeconds), ("edges", .arr edges)] := by
  simp only [marshal] at hbody
  cases htime : marshalTime b.observedAt with
  | error m => rw [htime] at hbody; cases hbody
  | ok observedAt =>
    cases hedges : b.edges.mapM marshalEdge with
    | error m => rw [htime, hedges] at hbody; cases hbody
    | ok edges =>
      rw [htime, hedges] at hbody
      cases hbody
      exact ⟨observedAt, edges, rfl, rfl⟩

theorem batchId_of_parse_marshal {b : Agent.IngestBatch} {body : Json} {r : Backend.IngestBatch}
    (hbody : marshal b = .ok body) (h : parse body = some r) : r.batchId = b.batchID := by
  obtain ⟨observedAt, edges, -, rfl⟩ := marshal_eq_ok hbody
  have hid := batchId_of_parse h
  simp [Dict.lookup_cons_ite] at hid
  exact hid.symm

/-- The observation read has the key of the one sent. -/
structure KeyDenotes (e : Agent.EdgeObservation) (o : Backend.EdgeObservation) : Prop where
  source : o.source.id = e.source.id
  target : o.target.id = e.target.id
  protocol : o.protocol.name = e.protocol
  port : (o.destinationPort : Int) = e.destinationPort

theorem id_of_parseNodeRef {n : Agent.NodeRef} {r : Backend.NodeRef}
    (h : parseNodeRef (marshalNodeRef n) = some r) : r.id = n.id := by
  simp only [parseNodeRef, marshalNodeRef, object, Option.bind_eq_bind,
    Option.bind_eq_some_iff] at h
  obtain ⟨fs, hobject, id, hid, kind, -, ns, -, name, -, hchecked⟩ := h
  split at hobject
  · cases hobject
    simp [required, readStr] at hid
    split at hchecked
    · cases hchecked
      exact hid.symm
    · cases hchecked
  · cases hobject

theorem marshalTime_eq_ok {t : GoTime} {j : Json} (h : marshalTime t = .ok j) :
    j = .time t.wall := by
  unfold marshalTime at h
  split at h
  · cases h
    rfl
  · cases h

theorem marshalEdge_eq_ok {e : Agent.EdgeObservation} {j : Json} (h : marshalEdge e = .ok j) :
    j = .obj (edgeFields e) := by
  simp only [marshalEdge] at h
  cases hfirst : marshalTime e.firstSeen with
  | error m => rw [hfirst] at h; cases h
  | ok first =>
    cases hlast : marshalTime e.lastSeen with
    | error m => rw [hfirst, hlast] at h; cases h
    | ok last =>
      rw [hfirst, hlast, marshalTime_eq_ok hfirst, marshalTime_eq_ok hlast] at h
      exact (Except.ok.inj h).symm

/-- The key fields of what is read come from the fields of their names. -/
theorem keys_of_readEdge {fields : List (String × Json)} {input : EdgeInput}
    (h : readEdge fields = some input) :
    required fields "source" parseNodeRef = some input.source ∧
    required fields "target" parseNodeRef = some input.target ∧
    required fields "protocol" readProtocol = some input.protocol ∧
    required fields "destination_port" readNat = some input.destinationPort := by
  unfold readEdge at h
  obtain ⟨source, hsource, h⟩ := Option.bind_eq_some_iff.mp h
  obtain ⟨target, htarget, h⟩ := Option.bind_eq_some_iff.mp h
  obtain ⟨protocol, hprotocol, h⟩ := Option.bind_eq_some_iff.mp h
  obtain ⟨port, hport, h⟩ := Option.bind_eq_some_iff.mp h
  -- the other fields are read after these and do not matter here
  obtain ⟨count, -, h⟩ := Option.bind_eq_some_iff.mp h
  obtain ⟨failed, -, h⟩ := Option.bind_eq_some_iff.mp h
  obtain ⟨latencyCount, -, h⟩ := Option.bind_eq_some_iff.mp h
  obtain ⟨latencySum, -, h⟩ := Option.bind_eq_some_iff.mp h
  obtain ⟨sent, -, h⟩ := Option.bind_eq_some_iff.mp h
  obtain ⟨received, -, h⟩ := Option.bind_eq_some_iff.mp h
  obtain ⟨first, -, h⟩ := Option.bind_eq_some_iff.mp h
  obtain ⟨last, -, h⟩ := Option.bind_eq_some_iff.mp h
  cases h
  exact ⟨hsource, htarget, hprotocol, hport⟩

/-- Reading keeps the key of an edge, whatever else is in it. -/
theorem key_of_parseEdge {e : Agent.EdgeObservation} {o : Backend.EdgeObservation}
    (h : parseEdge (.obj (edgeFields e)) = some o) : KeyDenotes e o := by
  have hbody := edgeFields_body e
  have hobject : (Json.obj (edgeFields e)).object edgeFieldNames = some (edgeFields e) := by
    simp only [object, edgeFields_known, if_true]
  generalize edgeFields e = fields at h hbody hobject
  unfold parseEdge at h
  rw [hobject, Option.bind_some] at h
  obtain ⟨input, hread, hchecked⟩ := Option.bind_eq_some_iff.mp h
  obtain ⟨hsource, htarget, hprotocol, hport⟩ := keys_of_readEdge hread
  simp only [required, hbody.source, hbody.target, hbody.protocol, hbody.port,
    Option.bind_some] at hsource htarget hprotocol hport
  split at hchecked
  · cases hchecked
    refine ⟨id_of_parseNodeRef hsource, id_of_parseNodeRef htarget, ?_, ?_⟩
    · -- the one protocol there is
      simp only [readProtocol, readStr, Option.bind_some] at hprotocol
      split at hprotocol
      · next hname =>
        show input.protocol.name = e.protocol
        rw [← Option.some.inj hprotocol]
        exact hname.symm
      · cases hprotocol
    · simp only [readNat] at hport
      split at hport
      · next hnonneg =>
        show (input.destinationPort : Int) = e.destinationPort
        rw [← Option.some.inj hport]
        exact Int.toNat_of_nonneg hnonneg
      · cases hport
  · cases hchecked

/-- **Order on the wire**: the edges arrive as they were sent, in their order and with their
    keys. -/
theorem keys_of_parse_marshal {b : Agent.IngestBatch} {body : Json} {r : Backend.IngestBatch}
    (hbody : marshal b = .ok body) (h : parse body = some r) :
    List.Forall₂ KeyDenotes b.edges r.edges := by
  obtain ⟨observedAt, js, hjs, rfl⟩ := marshal_eq_ok hbody
  have hedges := (required_of_parse h).2
  simp [required, readList, Dict.lookup_cons_ite] at hedges
  apply (forall₂_comp (forall₂_of_mapM_ok hjs) (forall₂_of_mapM hedges)).imp
  rintro e o ⟨j, hwritten, hread⟩
  rw [marshalEdge_eq_ok hwritten] at hread
  exact key_of_parseEdge hread

/-! ### Counts on the wire -/

/-- The counts of what is read come from the fields of their names. -/
theorem counts_of_readEdge {fields : List (String × Json)} {input : EdgeInput}
    (h : readEdge fields = some input) :
    required fields "connection_count" readNat = some input.connectionCount ∧
    withDefault fields "failed_connection_count" (nullable readNat) none =
      some input.failedConnectionCount ∧
    withDefault fields "connect_latency_count" readNat 0 = some input.connectLatencyCount ∧
    withDefault fields "connect_latency_sum_us" readNat 0 = some input.connectLatencySumUs := by
  unfold readEdge at h
  obtain ⟨source, -, h⟩ := Option.bind_eq_some_iff.mp h
  obtain ⟨target, -, h⟩ := Option.bind_eq_some_iff.mp h
  obtain ⟨protocol, -, h⟩ := Option.bind_eq_some_iff.mp h
  obtain ⟨port, -, h⟩ := Option.bind_eq_some_iff.mp h
  obtain ⟨count, hcount, h⟩ := Option.bind_eq_some_iff.mp h
  obtain ⟨failed, hfailed, h⟩ := Option.bind_eq_some_iff.mp h
  obtain ⟨latencyCount, hlatency, h⟩ := Option.bind_eq_some_iff.mp h
  obtain ⟨latencySum, hsum, h⟩ := Option.bind_eq_some_iff.mp h
  obtain ⟨sent, -, h⟩ := Option.bind_eq_some_iff.mp h
  obtain ⟨received, -, h⟩ := Option.bind_eq_some_iff.mp h
  obtain ⟨first, -, h⟩ := Option.bind_eq_some_iff.mp h
  obtain ⟨last, -, h⟩ := Option.bind_eq_some_iff.mp h
  cases h
  exact ⟨hcount, hfailed, hlatency, hsum⟩

theorem readNat_int {v : Int} {n : Nat} (h : readNat (.int v) = some n) : (n : Int) = v := by
  simp only [readNat] at h
  split at h
  · next hnonneg =>
    rw [← Option.some.inj h]
    exact Int.toNat_of_nonneg hnonneg
  · cases h

/-- A nullable count that was left out when nil is read as it was, if it is read. -/
theorem withDefault_nullable_read {fields : List (String × Json)} {name : String}
    {value : Option Int} {r : Option Nat} (hlookup : fields.lookup name = value.map Json.int)
    (h : withDefault fields name (nullable readNat) none = some r) : CountDenotes value r := by
  unfold withDefault at h
  rw [hlookup] at h
  cases value with
  | none => cases h; rfl
  | some v =>
    obtain ⟨n, hn, rfl⟩ := Option.map_eq_some_iff.mp h
    show some (n : Int) = some v
    rw [readNat_int hn]

/-- A count that was left out when zero is read as it was, if it is read. -/
theorem withDefault_zero_read {fields : List (String × Json)} {name : String} {value : Int}
    {n : Nat} (hlookup : fields.lookup name = if value ≠ 0 then some (.int value) else none)
    (h : withDefault fields name readNat 0 = some n) : (n : Int) = value := by
  unfold withDefault at h
  rw [hlookup] at h
  by_cases hzero : value = 0
  · rw [if_neg (not_not.mpr hzero)] at h
    rw [hzero, ← Option.some.inj h]
    rfl
  · rw [if_pos hzero] at h
    exact readNat_int h

/-- The counts of an edge, as sent and as read. -/
structure CountsDenote (e : Agent.EdgeObservation) (o : Backend.EdgeObservation) : Prop where
  connectionCount : (o.connectionCount : Int) = e.connectionCount
  failedConnectionCount : CountDenotes e.failedConnectionCount o.failedConnectionCount
  connectLatencyCount : (o.connectLatencyCount : Int) = e.connectLatencyCount
  connectLatencySumUS : (o.connectLatencySumUs : Int) = e.connectLatencySumUS

/-- Reading an edge keeps its counts, whatever `Validate` says of it. -/
theorem counts_of_parseEdge {e : Agent.EdgeObservation} {o : Backend.EdgeObservation}
    (h : parseEdge (.obj (edgeFields e)) = some o) : CountsDenote e o := by
  have hbody := edgeFields_body e
  have hobject : (Json.obj (edgeFields e)).object edgeFieldNames = some (edgeFields e) := by
    simp only [object, edgeFields_known, if_true]
  generalize edgeFields e = fields at h hbody hobject
  unfold parseEdge at h
  rw [hobject, Option.bind_some] at h
  obtain ⟨input, hread, hchecked⟩ := Option.bind_eq_some_iff.mp h
  obtain ⟨hcount, hfailed, hlatency, hsum⟩ := counts_of_readEdge hread
  simp only [required, hbody.count, Option.bind_some] at hcount
  split at hchecked
  · cases hchecked
    exact ⟨readNat_int hcount, withDefault_nullable_read hbody.failed hfailed,
      withDefault_zero_read hbody.latencyCount hlatency,
      withDefault_zero_read hbody.latencySum hsum⟩
  · cases hchecked

/-- Keys and counts of a batch, edge by edge. -/
theorem edges_of_parse_marshal {b : Agent.IngestBatch} {body : Json} {r : Backend.IngestBatch}
    (hbody : marshal b = .ok body) (h : parse body = some r) :
    List.Forall₂ (fun e o => KeyDenotes e o ∧ CountsDenote e o) b.edges r.edges := by
  obtain ⟨observedAt, js, hjs, rfl⟩ := marshal_eq_ok hbody
  have hedges := (required_of_parse h).2
  simp [required, readList, Dict.lookup_cons_ite] at hedges
  apply (forall₂_comp (forall₂_of_mapM_ok hjs) (forall₂_of_mapM hedges)).imp
  rintro e o ⟨j, hwritten, hread⟩
  rw [marshalEdge_eq_ok hwritten] at hread
  exact ⟨key_of_parseEdge hread, counts_of_parseEdge hread⟩

end TopologyVisualizer.Wire
