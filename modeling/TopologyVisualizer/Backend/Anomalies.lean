import TopologyVisualizer.Backend.Compare

/-! # Anomalies

    `app/domain/anomalies.py` and `evaluate_anomalies` of
    `app/api/routes.py`, which the route `GET /anomalies` and the background
    evaluator share.

    Python's floats are rationals that `Floats.fl` rounds after every
    operation; `Floats` also holds the formats of the reason texts. Nothing
    here depends on what they compute.

    `evaluate_anomalies` makes three repository calls, and other requests
    may write in between, so the model takes the store at each of them.
-/

namespace TopologyVisualizer.Backend.Anomalies

open InMemoryRepository

/-! ### Response models -/

/-- `AnomalyType`. -/
inductive AnomalyType where
  | canaryContact
  | newExternalEgress
  | newEdge
  | failureSpike
  | slowSetup
  deriving DecidableEq, Repr

def AnomalyType.name : AnomalyType → String
  | .canaryContact => "CANARY_CONTACT"
  | .newExternalEgress => "NEW_EXTERNAL_EGRESS"
  | .newEdge => "NEW_EDGE"
  | .failureSpike => "FAILURE_SPIKE"
  | .slowSetup => "SLOW_SETUP"

/-- The position of a type in `ANOMALY_TYPES`. -/
def AnomalyType.index : AnomalyType → Nat
  | .canaryContact => 0
  | .newExternalEgress => 1
  | .newEdge => 2
  | .failureSpike => 3
  | .slowSetup => 4

/-- `AnomalySeverity`. -/
inductive AnomalySeverity where
  | critical
  | warning
  deriving DecidableEq, Repr

/-- `SEVERITY`. -/
def AnomalyType.severity : AnomalyType → AnomalySeverity
  | .canaryContact => .critical
  | .newExternalEgress => .critical
  | .newEdge => .warning
  | .failureSpike => .critical
  | .slowSetup => .warning

/-- `Anomaly`. -/
structure Anomaly where
  id : String
  edgeId : String
  type : AnomalyType
  severity : AnomalySeverity
  sourceId : String
  targetId : String
  protocol : Protocol
  destinationPort : Nat
  currentConnectionCount : Nat
  currentFailedConnectionCount : Option Nat
  baselineConnectionCount : Nat
  baselineFailedConnectionCount : Option Nat
  currentMeanSetupUs : Option ℚ
  baselineMeanSetupUs : Option ℚ
  reason : String

/-- `AnomalySummary`. -/
structure AnomalySummary where
  criticalCount : Nat
  warningCount : Nat
  baselineObserved : Bool
  truncated : Bool

/-- `AnomalyResponse`. -/
structure AnomalyResponse where
  generatedAt : Datetime
  window : ResolvedWindow
  baseline : ResolvedWindow
  filters : EffectiveFilters
  anomalies : List Anomaly
  nodes : List GraphNode
  summary : AnomalySummary

/-! ### Settings and floats -/

/-- `Thresholds`; the default ratio is the double nearest to 0.2. -/
structure Thresholds where
  minAttempts : Int := 10
  failureRatio : ℚ := 3602879701896397 / 18014398509481984
  setupFactor : ℚ := 3

/-- The settings that the rules and the evaluator read. -/
structure Settings where
  graphMaxEdges : Nat := Backend.graphMaxEdges
  anomalyBaselineHours : Int := 24
  thresholds : Thresholds := {}
  anomalyEvaluationWindowMinutes : Int := 5
  alertMinSeverity : AnomalySeverity := .critical

/-- The rounding of one float operation, and the formats `_pct`, `_ms` and `{:g}`. -/
structure Floats where
  fl : ℚ → ℚ
  pct : ℚ → String
  ms : ℚ → String
  general : ℚ → String

/-- `SLOW_SETUP_FLOOR_US`. -/
def slowSetupFloorUs : ℚ := 1000

/-! ### Rules -/

/-- `_attempts`. -/
def attempts (edge : EdgeAggregate) : Nat :=
  edge.connectionCount + edge.failedConnectionCount.getD 0

section rules
variable (F : Floats) (thresholds : Thresholds)

/-- `_failure_ratio`: none when failures were not measured. -/
def failureRatio (edge : Option EdgeAggregate) : Option ℚ :=
  match edge with
  -- an edge that is not in the baseline had no failures there
  | none => some 0
  | some e => e.failedConnectionCount.map (fun failed =>
      if attempts e = 0 then 0 else F.fl ((failed : ℚ) / attempts e))

/-- `_mean_setup`. -/
def meanSetup (edge : Option EdgeAggregate) : Option ℚ :=
  edge.bind (fun e =>
    if e.connectLatencyCount = 0 then none
    else some (F.fl ((e.connectLatencySumUs : ℚ) / e.connectLatencyCount)))

/-- `_round`: to one decimal. -/
def round (value : Option ℚ) : Option ℚ :=
  value.map (fun x => F.fl ((roundHalfEven (x * 10) : ℚ) / 10))

/-- Contact with a canary. -/
def canaryRule (canaryTargets : List String) (edge : EdgeAggregate) :
    List (AnomalyType × String) :=
  if edge.key.targetId ∈ canaryTargets then
    [(.canaryContact, toString (attempts edge) ++
      " connection attempt(s) to a canary workload; nothing legitimate connects to one")]
  else []

/-- Novelty, when the baseline held anything at all. -/
def noveltyRule (period : String) (baselineObserved : Bool) (edge : EdgeAggregate)
    (before : Option EdgeAggregate) : List (AnomalyType × String) :=
  -- after an empty baseline everything would be new
  if before.isNone && baselineObserved then
    if edge.key.targetId = externalNodeId then
      [(.newExternalEgress, "connections leave the cluster on port " ++
        toString edge.key.destinationPort ++ "; none on this port from this source in " ++ period)]
    else [(.newEdge, "not observed in " ++ period)]
  else []

/-- A failure ratio that is high and much higher than before. -/
def failureRule (period : String) (edge : EdgeAggregate) (before : Option EdgeAggregate) :
    List (AnomalyType × String) :=
  match failureRatio F (some edge), failureRatio F before with
  | some nowRatio, some wasRatio =>
    -- one threshold bounds both the ratio and its rise
    if thresholds.minAttempts ≤ attempts edge ∧ thresholds.failureRatio ≤ nowRatio ∧
        thresholds.failureRatio ≤ F.fl (nowRatio - wasRatio) then
      [(.failureSpike, F.pct nowRatio ++ " of " ++ toString (attempts edge) ++
        " attempts failed, against " ++ F.pct wasRatio ++ " in " ++ period ++ " (threshold: ≥ " ++
        F.pct thresholds.failureRatio ++ " and ≥ " ++ F.pct thresholds.failureRatio ++
        " points higher)")]
    else []
  | _, _ => []

/-- A mean setup time that is a multiple of the one before, and not by noise. -/
def setupRule (period : String) (edge : EdgeAggregate) (before : Option EdgeAggregate) :
    List (AnomalyType × String) :=
  match meanSetup F (some edge), meanSetup F before, before with
  | some nowSetup, some wasSetup, some was =>
    if thresholds.minAttempts ≤ edge.connectLatencyCount ∧
        thresholds.minAttempts ≤ was.connectLatencyCount ∧
        F.fl (thresholds.setupFactor * wasSetup) ≤ nowSetup ∧
        slowSetupFloorUs ≤ F.fl (nowSetup - wasSetup) then
      [(.slowSetup, "mean TCP setup " ++ F.ms nowSetup ++ " against " ++ F.ms wasSetup ++ " in " ++
        period ++ " (threshold: ≥ " ++ F.general thresholds.setupFactor ++ "× and ≥ " ++
        F.ms slowSetupFloorUs ++ " slower)")]
    else []
  | _, _, _ => []

/-- The rules that fire for an edge, in the order of `ANOMALY_TYPES`. -/
def fired (canaryTargets : List String) (period : String) (baselineObserved : Bool)
    (edge : EdgeAggregate) (before : Option EdgeAggregate) : List (AnomalyType × String) :=
  sortOn (fun f => f.1.index)
    (canaryRule canaryTargets edge ++ noveltyRule period baselineObserved edge before ++
      failureRule F thresholds period edge before ++ setupRule F thresholds period edge before)

/-- The anomaly of a rule that fired. -/
def toAnomaly (edge : EdgeAggregate) (before : Option EdgeAggregate)
    (rule : AnomalyType × String) : Anomaly where
  id := buildEdgeId edge.key ++ "|" ++ rule.1.name
  edgeId := buildEdgeId edge.key
  type := rule.1
  severity := rule.1.severity
  sourceId := edge.key.sourceId
  targetId := edge.key.targetId
  protocol := edge.key.protocol
  destinationPort := edge.key.destinationPort
  currentConnectionCount := edge.connectionCount
  currentFailedConnectionCount := edge.failedConnectionCount
  baselineConnectionCount := (before.map EdgeAggregate.connectionCount).getD 0
  baselineFailedConnectionCount :=
    match before with
    | none => some 0
    | some was => was.failedConnectionCount
  currentMeanSetupUs := round F (meanSetup F (some edge))
  baselineMeanSetupUs := round F (meanSetup F before)
  reason := rule.2

/-- The edges of the baseline with attempts, by key. -/
def baselineByKey (baselineEdges : List EdgeAggregate) : Dict EdgeKey EdgeAggregate :=
  (baselineEdges.filter (fun e => attempts e > 0)).foldl (fun d e => d.set e.key e) .empty

/-- The text for the length of a baseline. -/
def periodText (baselineWindow : ResolvedWindow) : String :=
  let seconds := F.fl (((baselineWindow.end - baselineWindow.start : Int) : ℚ) / 1000000)
  "the previous " ++ F.general (F.fl (seconds / 3600)) ++ " h"

/-- `detect`: the anomalies in the order of the edge keys, and whether the baseline held
    anything. -/
def detect (currentEdges baselineEdges : List EdgeAggregate) (canaryTargets : List String)
    (baselineWindow : ResolvedWindow) : List Anomaly × Bool :=
  let baseline := baselineByKey baselineEdges
  let baselineObserved := !baseline.entries.isEmpty
  let found := (sortOn EdgeAggregate.key currentEdges).flatMap (fun edge =>
    if attempts edge = 0 then []
    else
      (fired F thresholds canaryTargets (periodText F baselineWindow) baselineObserved edge
        (baseline.get? edge.key)).map (toAnomaly F edge (baseline.get? edge.key)))
  (found, baselineObserved)

end rules

/-- `respond`: the cap comes after the order. -/
def respond (anomalies : List Anomaly) (baselineObserved : Bool) (nodes : List GraphNode)
    (window baselineWindow : ResolvedWindow) (filters : EffectiveFilters) (generatedAt : Datetime)
    (maxAnomalies : Nat) : AnomalyResponse :=
  let kept := anomalies.take maxAnomalies
  let referenced := kept.map Anomaly.sourceId ++ kept.map Anomaly.targetId
  { generatedAt := generatedAt
    window := window
    baseline := baselineWindow
    filters := filters
    anomalies := kept
    nodes := sortOn GraphNode.id (nodes.filter (fun n => n.id ∈ referenced))
    summary :=
      { criticalCount := (kept.filter (fun a => a.severity = .critical)).length
        warningCount := (kept.filter (fun a => a.severity = .warning)).length
        baselineObserved := baselineObserved
        truncated := anomalies.length > kept.length } }

/-! ### Evaluation -/

/-- The repository at the three calls of `evaluate_anomalies`: the edges of the window, the
    edges of the baseline, and the nodes. -/
structure Reads where
  current : InMemoryRepository
  baseline : InMemoryRepository
  nodes : InMemoryRepository

/-- One repository at all three calls. -/
def Reads.same (repo : InMemoryRepository) : Reads := ⟨repo, repo, repo⟩

/-- The baseline of a window: the hours before it. -/
def baselineWindow (settings : Settings) (window : ResolvedWindow) : ResolvedWindow where
  start := window.start - settings.anomalyBaselineHours * 3600000000
  «end» := window.start

section evaluation
variable (F : Floats) (settings : Settings) (casefold : String → String) (canaries : CanarySet)
  (reads : Reads) (window : ResolvedWindow) (filters : EffectiveFilters)

/-- The edges of the window. -/
def currentEdges : List EdgeAggregate :=
  reads.current.queryEdges casefold window filters.toEdgeFilters

/-- The nodes stored for their endpoints. -/
def storedNodes : List (String × StoredNode) :=
  reads.nodes.nodesFor (endpoints (currentEdges casefold reads window filters))

/-- The endpoints that are canaries. -/
def canaryTargets : List String :=
  ((storedNodes casefold reads window filters).filter (fun entry =>
    canaries.matches entry.2.namespace entry.2.kind.name entry.2.name)).map Prod.fst

/-- What the rules find, before the cap. -/
def findings : List Anomaly × Bool :=
  detect F settings.thresholds (currentEdges casefold reads window filters)
    (reads.baseline.queryEdges casefold (baselineWindow settings window) filters.toEdgeFilters)
    (canaryTargets casefold canaries reads window filters) (baselineWindow settings window)

/-- `evaluate_anomalies`. -/
def evaluateAnomalies (generatedAt : Datetime) : AnomalyResponse :=
  let found := findings F settings casefold canaries reads window filters
  respond found.1 found.2
    ((storedNodes casefold reads window filters).map (fun entry => toNode canaries entry.2))
    window (baselineWindow settings window) filters generatedAt settings.graphMaxEdges

end evaluation

/-! ### What the rules find -/

section detection
variable {F : Floats} {thresholds : Thresholds} {currentEdges baselineEdges : List EdgeAggregate}
  {targets : List String} {baseline : ResolvedWindow}

/-- Every anomaly is a rule that fired for an edge with attempts. -/
theorem mem_detect {a : Anomaly} :
    a ∈ (detect F thresholds currentEdges baselineEdges targets baseline).1 ↔
      ∃ edge ∈ currentEdges, attempts edge ≠ 0 ∧
        ∃ rule ∈ fired F thresholds targets (periodText F baseline)
            (!(baselineByKey baselineEdges).entries.isEmpty) edge
            ((baselineByKey baselineEdges).get? edge.key),
          a = toAnomaly F edge ((baselineByKey baselineEdges).get? edge.key) rule := by
  unfold detect
  simp only [List.mem_flatMap, mem_sortOn]
  constructor
  · intro hfound
    obtain ⟨edge, hedge, ha⟩ := hfound
    by_cases hzero : attempts edge = 0
    · simp [hzero] at ha
    · rw [if_neg hzero, List.mem_map] at ha
      obtain ⟨rule, hrule, ha⟩ := ha
      exact ⟨edge, hedge, hzero, rule, hrule, ha.symm⟩
  · intro hrules
    obtain ⟨edge, hedge, hattempts, rule, hrule, ha⟩ := hrules
    refine ⟨edge, hedge, ?_⟩
    rw [if_neg hattempts, List.mem_map]
    exact ⟨rule, hrule, ha.symm⟩

theorem mem_fired {period : String} {observed : Bool} {edge : EdgeAggregate}
    {before : Option EdgeAggregate} {rule : AnomalyType × String} :
    rule ∈ fired F thresholds targets period observed edge before ↔
      rule ∈ canaryRule targets edge ∨ rule ∈ noveltyRule period observed edge before ∨
      rule ∈ failureRule F thresholds period edge before ∨
      rule ∈ setupRule F thresholds period edge before := by
  unfold fired
  rw [mem_sortOn]
  simp only [List.mem_append, or_assoc]

end detection

/-- Every observation has an attempt, so every edge of an answer has. -/
theorem attempts_ne_zero {es : List EdgeObservation} {a : EdgeAggregate}
    (ha : a ∈ answerOf (es.map EdgeObservation.counted)) : attempts a ≠ 0 := by
  have hsum := answerOf_sums ha
  obtain ⟨b, hb⟩ := List.exists_mem_of_ne_nil _ hsum.nonempty
  obtain ⟨e, -, rfl⟩ := List.mem_map.mp hb
  have hcount := List.le_sum_of_mem (List.mem_map_of_mem (f := Bucket.connectionCount) hb)
  have hfailed := List.le_sum_of_mem
    (List.mem_map_of_mem (f := fun b => b.failedConnectionCount.getD 0) hb)
  rw [← hsum.connectionCount] at hcount
  rw [← hsum.failedConnectionCount.2] at hfailed
  have hoe : (Bucket.ofEdge e).connectionCount = e.connectionCount := rfl
  have hof : (Bucket.ofEdge e).failedConnectionCount = e.failedConnectionCount := rfl
  rw [hoe] at hcount
  rw [hof] at hfailed
  have hattempts : attempts a = a.bucket.connectionCount + a.bucket.failedConnectionCount.getD 0 :=
    rfl
  -- one of its observations is enough: the counts only add up
  have houtcome := e.outcome_present
  omega

/-- The id of an anomaly names its type: no name of a type ends another. -/
theorem type_eq_of_id_eq {x y : String} {t t' : AnomalyType}
    (h : x ++ "|" ++ t.name = y ++ "|" ++ t'.name) : t = t' := by
  -- the last two letters tell the names apart
  have hlist := congrArg (fun s : String => s.toList.reverse.take 2) h
  cases t <;> cases t' <;> first | rfl | simp [AnomalyType.name] at hlist

end TopologyVisualizer.Backend.Anomalies
