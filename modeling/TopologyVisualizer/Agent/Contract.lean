import TopologyVisualizer.Framework.Checks
import TopologyVisualizer.Framework.GoTime

/-! # The Agent's Contract

    `agent/internal/contract/batch.go`: the batch the agent delivers, the
    grammar of node ids, and `Validate`.

    A `time.Time` is a `GoTime` and a pointer an `Option`. `quote` is the
    `%q` verb of `fmt`, a parameter because only messages use it.
-/

namespace TopologyVisualizer.Agent

open Checks

/-! ### Constants -/

/-- `SchemaVersion`. -/
def schemaVersion : Int := 1

/-- `ExternalNodeID`. -/
def externalNodeID : String := "external:EXTERNAL"

/-- `AllowedKinds`. -/
def allowedKinds : List String :=
  ["Service", "Deployment", "StatefulSet", "DaemonSet", "Job", "Pod"]

/-- `ProtocolTCP`. -/
def protocolTCP : String := "TCP"

/-- The characters of `ulidPattern`. -/
def ulidAlphabet : List Char := "0123456789ABCDEFGHJKMNPQRSTVWXYZ".toList

/-- `ulidPattern.MatchString`. -/
def matchesUlidPattern (s : String) : Bool :=
  s.toList.length == 26 && s.toList.all (fun c => ulidAlphabet.contains c)

/-! ### Types -/

/-- One endpoint of an observed relationship. -/
structure NodeRef where
  id : String
  kind : String
  «namespace» : Option String
  name : String
  deriving DecidableEq

/-- One aggregated relationship for a flush interval. -/
structure EdgeObservation where
  source : NodeRef
  target : NodeRef
  protocol : String
  destinationPort : Int
  connectionCount : Int
  failedConnectionCount : Option Int
  connectLatencyCount : Int
  connectLatencySumUS : Int
  bytesSent : Option Int
  bytesReceived : Option Int
  firstSeen : GoTime
  lastSeen : GoTime
  deriving DecidableEq

/-- The retry-safe unit of delivery. -/
structure IngestBatch where
  schemaVersion : Int
  clusterID : String
  agentID : String
  batchID : String
  observedAt : GoTime
  intervalSeconds : Int
  edges : List EdgeObservation
  deriving DecidableEq

/-! ### Node ids -/

/-- What `BuildNodeID` refuses in a segment: the empty string and the separator. -/
def checkSegment (quote : String → String) (label value : String) : Except String Unit := do
  rejectIf (value = "") ("node id segment " ++ quote label ++ " must not be empty")
  rejectIf (':' ∈ value.toList) ("node id segment " ++ quote label ++ " must not contain ':'")

/-- `BuildNodeID`. -/
def buildNodeID (quote : String → String) (clusterID ns kind name : String) :
    Except String String := do
  checkSegment quote "cluster_id" clusterID
  checkSegment quote "namespace" ns
  checkSegment quote "kind" kind
  checkSegment quote "name" name
  return "k8s:" ++ clusterID ++ ":" ++ ns ++ ":" ++ kind ++ ":" ++ name

/-! ### Validation -/

/-- `NodeRef.validate`. -/
def NodeRef.validate (quote : String → String) (role : String) (n : NodeRef) :
    Except String Unit := do
  rejectIf (n.id = "") (role ++ ".id must not be empty")
  rejectIf (n.name = "") (role ++ ".name must not be empty")
  rejectIf (n.kind ∉ allowedKinds)
    (role ++ ".kind " ++ quote n.kind ++ " is not one of the six allowed kinds")

/-- `EdgeObservation.validate`. -/
def EdgeObservation.validate (quote : String → String) (e : EdgeObservation) :
    Except String Unit := do
  e.source.validate quote "source"
  e.target.validate quote "target"
  rejectIf (e.protocol ≠ protocolTCP)
    ("protocol " ++ quote e.protocol ++ " unsupported; only " ++ quote protocolTCP ++
      " in this release")
  rejectIf (e.destinationPort < 1 ∨ e.destinationPort > 65535)
    ("destination_port " ++ toString e.destinationPort ++ " out of range 1..65535")
  rejectIf (e.connectionCount < 0 ∨
      (e.connectionCount = 0 ∧
        (e.failedConnectionCount = none ∨ e.failedConnectionCount = some 0)))
    "at least one successful or failed connection is required"
  rejectIf (∃ failed ∈ e.failedConnectionCount, failed < 0)
    "failed_connection_count must be nonnegative"
  rejectIf (e.connectLatencyCount < 0 ∨ e.connectLatencyCount > e.connectionCount ∨
      e.connectLatencySumUS < 0 ∨ (e.connectLatencyCount = 0 ∧ e.connectLatencySumUS ≠ 0))
    "invalid successful connection timing sample count or sum"
  rejectIf (∃ sent ∈ e.bytesSent, sent < 0)
    ("bytes_sent " ++ toString (e.bytesSent.getD 0) ++ " must be >= 0")
  rejectIf (∃ received ∈ e.bytesReceived, received < 0)
    ("bytes_received " ++ toString (e.bytesReceived.getD 0) ++ " must be >= 0")
  rejectIf (e.firstSeen.isZero || e.lastSeen.isZero)
    "first_seen and last_seen must both be set"
  rejectIf (e.lastSeen.before e.firstSeen) "last_seen must not precede first_seen"

/-- `IngestBatch.Validate`. -/
def IngestBatch.validate (quote : String → String) (b : IngestBatch) : Except String Unit := do
  rejectIf (b.schemaVersion ≠ Agent.schemaVersion)
    ("schema_version " ++ toString b.schemaVersion ++ " unsupported; this release emits " ++
      toString Agent.schemaVersion)
  rejectIf (b.clusterID = "") "cluster_id must not be empty"
  rejectIf (b.agentID = "") "agent_id must not be empty"
  rejectIf (!matchesUlidPattern b.batchID)
    ("batch_id " ++ quote b.batchID ++ " is not a 26-character Crockford base32 ULID")
  rejectIf b.observedAt.isZero "observed_at must be set"
  rejectIf (b.intervalSeconds < 1 ∨ b.intervalSeconds > 3600)
    ("interval_seconds " ++ toString b.intervalSeconds ++ " out of range 1..3600")
  checkEach (fun i => "edges[" ++ toString i ++ "]: ") (EdgeObservation.validate quote) 0 b.edges

/-! ### What the validators accept -/

/-- An endpoint `NodeRef.validate` accepts. -/
structure NodeRef.Valid (n : NodeRef) : Prop where
  id_nonempty : n.id ≠ ""
  name_nonempty : n.name ≠ ""
  kind_allowed : n.kind ∈ allowedKinds

/-- An edge `EdgeObservation.validate` accepts. -/
structure EdgeObservation.Valid (e : EdgeObservation) : Prop where
  source : e.source.Valid
  target : e.target.Valid
  protocol : e.protocol = protocolTCP
  port_range : 1 ≤ e.destinationPort ∧ e.destinationPort ≤ 65535
  outcome_present : 0 ≤ e.connectionCount ∧
    (e.connectionCount ≠ 0 ∨ ∃ failed ∈ e.failedConnectionCount, failed ≠ 0)
  failed_nonneg : ∀ failed ∈ e.failedConnectionCount, 0 ≤ failed
  latency : 0 ≤ e.connectLatencyCount ∧ e.connectLatencyCount ≤ e.connectionCount ∧
    0 ≤ e.connectLatencySumUS ∧ (e.connectLatencyCount = 0 → e.connectLatencySumUS = 0)
  sent_nonneg : ∀ sent ∈ e.bytesSent, 0 ≤ sent
  received_nonneg : ∀ received ∈ e.bytesReceived, 0 ≤ received
  times_set : e.firstSeen.isZero = false ∧ e.lastSeen.isZero = false
  interval : e.lastSeen.before e.firstSeen = false

/-- A batch `Validate` accepts. -/
structure IngestBatch.Valid (b : IngestBatch) : Prop where
  schemaVersion : b.schemaVersion = Agent.schemaVersion
  clusterID_nonempty : b.clusterID ≠ ""
  agentID_nonempty : b.agentID ≠ ""
  batchID_ulid : matchesUlidPattern b.batchID
  observedAt_set : b.observedAt.isZero = false
  interval_range : 1 ≤ b.intervalSeconds ∧ b.intervalSeconds ≤ 3600
  edges : ∀ e ∈ b.edges, e.Valid

theorem NodeRef.validate_eq_ok_iff {quote : String → String} {role : String} {n : NodeRef} :
    n.validate quote role = .ok () ↔ n.Valid := by
  simp only [NodeRef.validate, seq_eq_ok, rejectIf_eq_ok, decide_eq_false_iff_not, not_not]
  constructor
  · intro h
    exact ⟨h.1, h.2.1, h.2.2⟩
  · intro h
    exact ⟨h.id_nonempty, h.name_nonempty, h.kind_allowed⟩

/-- The outcome check reads: a count that is not negative, and some connection. -/
theorem outcome_check_iff {count : Int} {failed : Option Int} :
    ¬(count < 0 ∨ (count = 0 ∧ (failed = none ∨ failed = some 0))) ↔
      0 ≤ count ∧ (count ≠ 0 ∨ ∃ f ∈ failed, f ≠ 0) := by
  cases failed with
  | none => simp
  | some f => simp; omega

theorem EdgeObservation.validate_eq_ok_iff {quote : String → String} {e : EdgeObservation} :
    e.validate quote = .ok () ↔ e.Valid := by
  have hnonneg : ∀ value : Option Int, ¬(∃ v ∈ value, v < 0) ↔ ∀ v ∈ value, 0 ≤ v := by
    intro value
    cases value <;> simp
  simp only [EdgeObservation.validate, seq_eq_ok, rejectIf_eq_ok, decide_eq_false_iff_not,
    NodeRef.validate_eq_ok_iff, not_not, Bool.or_eq_false_iff]
  rw [outcome_check_iff, hnonneg, hnonneg, hnonneg]
  constructor
  · rintro ⟨h₁, h₂, h₃, h₄, h₅, h₆, h₇, h₈, h₉, h₁₀, h₁₁⟩
    exact ⟨h₁, h₂, h₃, by omega, h₅, h₆, by omega, h₈, h₉, h₁₀, h₁₁⟩
  · rintro ⟨h₁, h₂, h₃, h₄, h₅, h₆, h₇, h₈, h₉, h₁₀, h₁₁⟩
    exact ⟨h₁, h₂, h₃, by omega, h₅, h₆, by omega, h₈, h₉, h₁₀, h₁₁⟩

/-- `Validate` accepts exactly the valid batches. -/
theorem IngestBatch.validate_eq_ok_iff {quote : String → String} {b : IngestBatch} :
    b.validate quote = .ok () ↔ b.Valid := by
  have hinterval : ¬(b.intervalSeconds < 1 ∨ b.intervalSeconds > 3600) ↔
      1 ≤ b.intervalSeconds ∧ b.intervalSeconds ≤ 3600 := by omega
  simp only [IngestBatch.validate, seq_eq_ok, rejectIf_eq_ok, decide_eq_false_iff_not, not_not,
    hinterval, checkEach_eq_ok, EdgeObservation.validate_eq_ok_iff, Bool.not_eq_false']
  constructor
  · rintro ⟨h₁, h₂, h₃, h₄, h₅, h₆, h₇⟩
    exact ⟨h₁, h₂, h₃, h₄, h₅, h₆, h₇⟩
  · intro h
    exact ⟨h.schemaVersion, h.clusterID_nonempty, h.agentID_nonempty, h.batchID_ulid,
      h.observedAt_set, h.interval_range, h.edges⟩

/-! ### What `BuildNodeID` accepts -/

/-- A segment of a node id. -/
def IsSegment (s : String) : Prop := s ≠ "" ∧ ':' ∉ s.toList

theorem checkSegment_eq_ok_iff {quote : String → String} {label value : String} :
    checkSegment quote label value = .ok () ↔ IsSegment value := by
  simp only [checkSegment, seq_eq_ok, rejectIf_eq_ok, decide_eq_false_iff_not, IsSegment]

/-- `BuildNodeID` succeeds exactly on segments, and then joins them. -/
theorem buildNodeID_eq_ok_iff {quote : String → String} {c ns kind name id : String} :
    buildNodeID quote c ns kind name = .ok id ↔
      IsSegment c ∧ IsSegment ns ∧ IsSegment kind ∧ IsSegment name ∧
        "k8s:" ++ c ++ ":" ++ ns ++ ":" ++ kind ++ ":" ++ name = id := by
  simp only [buildNodeID, seq_eq_ok, checkSegment_eq_ok_iff, pure, Except.pure, Except.ok.injEq]

end TopologyVisualizer.Agent
