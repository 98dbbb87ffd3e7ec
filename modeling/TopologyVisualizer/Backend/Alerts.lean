import TopologyVisualizer.Backend.Anomalies

/-! # Announcing Anomalies

    The background evaluator: `evaluate_once` and `_anomaly_loop` of
    `app/main.py`, and `notify_anomalies` of `app/alerts/dispatch.py` up to
    the message it submits.

    A pass compares the ids it finds with those of the last pass that did
    not fail. Both lists are cut at `graph_max_edges` before they are
    compared, so an anomaly is announced exactly when it becomes active only
    as long as the cut does not hide it when it is new, nor uncover it when
    it is not (`CutHarmless`).

    An anomaly is told apart from another by its id.
-/

namespace TopologyVisualizer.Backend.Anomalies

open InMemoryRepository

/-! ### The evaluator -/

/-- `SEVERITY_RANK`. -/
def AnomalySeverity.rank : AnomalySeverity → Nat
  | .warning => 0
  | .critical => 1

/-- What `notify_anomalies` keeps: ingestion has announced the canary contacts already. -/
def alertable (minSeverity : AnomalySeverity) (a : Anomaly) : Bool :=
  a.type ≠ .canaryContact && decide (minSeverity.rank ≤ a.severity.rank)

/-- `notify_anomalies`: the anomalies of the message it submits, if it submits one. -/
def notifyAnomalies (minSeverity : AnomalySeverity) (new : List Anomaly) :
    Option (List Anomaly) :=
  let found := new.filter (alertable minSeverity)
  if found.isEmpty then none else some found

/-- What the evaluator reads of the application. -/
structure App where
  floats : Floats
  settings : Settings
  casefold : String → String
  canaries : CanarySet

/-- A turn of the loop: an exception was logged, or the store was evaluated at some time. -/
inductive Pass where
  | failed
  | evaluated (now : Datetime) (reads : Reads)

/-- The variable `active` of the loop, and the message of the last pass. -/
structure Evaluator where
  active : Option (List String) := none
  submitted : Option (List Anomaly) := none

namespace App
variable (app : App)

/-- The window of a pass. -/
def window (now : Datetime) : ResolvedWindow where
  start := now - app.settings.anomalyEvaluationWindowMinutes * 60000000
  «end» := now

/-- What the rules find on a pass. -/
def found (now : Datetime) (reads : Reads) : List Anomaly :=
  (findings app.floats app.settings app.casefold app.canaries reads (app.window now) {}).1

/-- `evaluate_once`: the ids now active, and the message. -/
def evaluateOnce (previous : Option (List String)) (now : Datetime) (reads : Reads) :
    List String × Option (List Anomaly) :=
  let result := evaluateAnomalies app.floats app.settings app.casefold app.canaries reads
    (app.window now) {} now
  let new := result.anomalies.filter (fun a => a.id ∉ previous.getD [])
  (result.anomalies.map Anomaly.id,
    -- what is active on the first pass is not sent
    if previous.isSome then notifyAnomalies app.settings.alertMinSeverity new else none)

/-- One turn of `_anomaly_loop`: a failure keeps what was active. -/
def pass (s : Evaluator) : Pass → Evaluator
  | .failed => { s with submitted := none }
  | .evaluated now reads =>
    let (active, submitted) := app.evaluateOnce s.active now reads
    ⟨some active, submitted⟩

/-- The loop from the start of the process. -/
def run (passes : List Pass) : Evaluator := passes.foldl app.pass {}

end App

/-! ### What a pass announces -/

section announcing
variable {app : App}

/-- The message of a list of new anomalies has the alertable ones. -/
theorem mem_notifyAnomalies {minSeverity : AnomalySeverity} {new : List Anomaly} {id : String} :
    (∃ found, notifyAnomalies minSeverity new = some found ∧ ∃ a ∈ found, a.id = id) ↔
      ∃ a ∈ new, a.id = id ∧ alertable minSeverity a = true := by
  unfold notifyAnomalies
  simp only
  constructor
  · intro ⟨found, hfound, a, ha, hid⟩
    split at hfound
    · cases hfound
    · cases hfound
      have hmem := List.mem_filter.mp ha
      exact ⟨a, hmem.1, hid, hmem.2⟩
  · intro ⟨a, ha, hid, halert⟩
    have hmem : a ∈ new.filter (alertable minSeverity) := List.mem_filter.mpr ⟨ha, halert⟩
    refine ⟨new.filter (alertable minSeverity), if_neg ?_, a, hmem, hid⟩
    rw [List.isEmpty_iff]
    exact List.ne_nil_of_mem hmem

/-- A failed pass only clears the message. -/
theorem active_foldl_failed (s : Evaluator) (failures : Nat) :
    ((List.replicate failures Pass.failed).foldl app.pass s).active = s.active := by
  induction failures generalizing s with
  | zero => rfl
  | succ n ih => exact ih _

/-- After a pass that did not fail, its ids within the cap are active until the next such pass. -/
theorem active_run (app : App) (before : List Pass) (was : Datetime) (readsBefore : Reads)
    (failures : Nat) :
    (app.run (before ++ [Pass.evaluated was readsBefore] ++
        List.replicate failures Pass.failed)).active =
      some (((app.found was readsBefore).take app.settings.graphMaxEdges).map Anomaly.id) := by
  unfold App.run
  rw [List.foldl_append, active_foldl_failed, List.foldl_append]
  rfl

/-- **What is announced**: an alertable finding within the cap whose id was not within the cap
    of the last pass that did not fail. -/
theorem submitted_iff (before : List Pass) (was now : Datetime) (readsBefore reads : Reads)
    (failures : Nat) (id : String) :
    (∃ message, (app.run (before ++ [Pass.evaluated was readsBefore] ++
        List.replicate failures Pass.failed ++ [Pass.evaluated now reads])).submitted = some message ∧
        ∃ a ∈ message, a.id = id) ↔
      ∃ a ∈ (app.found now reads).take app.settings.graphMaxEdges, a.id = id ∧
        alertable app.settings.alertMinSeverity a = true ∧
        id ∉ ((app.found was readsBefore).take app.settings.graphMaxEdges).map Anomaly.id := by
  have hactive := active_run app before was readsBefore failures
  have hlast : (app.run (before ++ [Pass.evaluated was readsBefore] ++
      List.replicate failures Pass.failed ++ [Pass.evaluated now reads])).submitted =
      notifyAnomalies app.settings.alertMinSeverity
        (((app.found now reads).take app.settings.graphMaxEdges).filter (fun a => a.id ∉
          ((app.found was readsBefore).take app.settings.graphMaxEdges).map Anomaly.id)) := by
    unfold App.run
    rw [List.foldl_append]
    show (app.evaluateOnce (app.run (before ++ [Pass.evaluated was readsBefore] ++
      List.replicate failures Pass.failed)).active now reads).2 = _
    rw [hactive]
    rfl
  rw [hlast, mem_notifyAnomalies]
  constructor
  · intro ⟨a, ha, hid, halert⟩
    have hmem := List.mem_filter.mp ha
    exact ⟨a, hmem.1, hid, halert, hid ▸ of_decide_eq_true hmem.2⟩
  · intro ⟨a, ha, hid, halert, hnew⟩
    exact ⟨a, List.mem_filter.mpr ⟨ha, decide_eq_true (hid.symm ▸ hnew)⟩, hid, halert⟩

/-- On one store, a finding is a rule that fired for an edge of the window. -/
theorem mem_found_same {repo : InMemoryRepository} {now : Datetime} {a : Anomaly} :
    a ∈ app.found now (.same repo) ↔
      ∃ edge ∈ repo.queryEdges app.casefold (app.window now) {}, attempts edge ≠ 0 ∧
        ∃ rule ∈ fired app.floats app.settings.thresholds
            (canaryTargets app.casefold app.canaries (.same repo) (app.window now) {})
            (periodText app.floats (baselineWindow app.settings (app.window now)))
            (!(baselineByKey (repo.queryEdges app.casefold
              (baselineWindow app.settings (app.window now)) {})).entries.isEmpty) edge
            ((baselineByKey (repo.queryEdges app.casefold
              (baselineWindow app.settings (app.window now)) {})).get? edge.key),
          a = toAnomaly app.floats edge ((baselineByKey (repo.queryEdges app.casefold
              (baselineWindow app.settings (app.window now)) {})).get? edge.key) rule :=
  mem_detect

/-- Whether a finding is alertable depends on its type alone. -/
theorem alertable_toAnomaly (minSeverity : AnomalySeverity) (floats : Floats) (edge : EdgeAggregate)
    (base : Option EdgeAggregate) (rule : AnomalyType × String) :
    alertable minSeverity (toAnomaly floats edge base rule) =
      (rule.1 ≠ .canaryContact && decide (minSeverity.rank ≤ rule.1.severity.rank)) := rfl

theorem id_toAnomaly (floats : Floats) (edge : EdgeAggregate) (base : Option EdgeAggregate)
    (rule : AnomalyType × String) :
    (toAnomaly floats edge base rule).id = buildEdgeId edge.key ++ "|" ++ rule.1.name := rfl

/-- Findings with one id are alertable alike. -/
theorem alertable_of_id_eq (minSeverity : AnomalySeverity) {now : Datetime} {reads : Reads}
    {a a' : Anomaly} (ha : a ∈ app.found now reads) (ha' : a' ∈ app.found now reads)
    (hid : a'.id = a.id) : alertable minSeverity a' = alertable minSeverity a := by
  obtain ⟨edge, -, -, rule, -, rfl⟩ := mem_detect.mp ha
  obtain ⟨edge', -, -, rule', -, rfl⟩ := mem_detect.mp ha'
  have htype : rule'.1 = rule.1 := type_eq_of_id_eq hid
  rw [alertable_toAnomaly, alertable_toAnomaly, htype]

/-- An id is within the cap when its first place among the findings is below it. -/
theorem mem_take_ids {found : List Anomaly} {id : String} (h : id ∈ found.map Anomaly.id)
    (cap : Nat) :
    id ∈ (found.take cap).map Anomaly.id ↔ (found.map Anomaly.id).idxOf id < cap := by
  rw [List.map_take]
  exact List.mem_take_iff_idxOf_lt h

end announcing

/-- The cut at `cap` findings hides no alertable finding that is new, and no alertable finding
    that is standing comes within it from beyond. -/
def CutHarmless (cap : Nat) (minSeverity : AnomalySeverity) (before now : List Anomaly) : Prop :=
  ∀ a ∈ now, alertable minSeverity a = true →
    (a.id ∉ before.map Anomaly.id → (now.map Anomaly.id).idxOf a.id < cap) ∧
    (a.id ∈ before.map Anomaly.id → (now.map Anomaly.id).idxOf a.id < cap →
      (before.map Anomaly.id).idxOf a.id < cap)

/-- **Every newly active anomaly is announced once, unless the cut interferes**: whatever passes
    came before and however many failed since the last one that did not, the alertable anomalies
    in the message of a pass are those its rules find and the last one's did not, exactly when
    the cut is harmless. -/
theorem announced_once_iff (app : App) (before : List Pass) (was now : Datetime)
    (readsBefore reads : Reads) (failures : Nat) :
    (∀ id,
      (∃ message, (app.run (before ++ [.evaluated was readsBefore] ++
          List.replicate failures .failed ++ [.evaluated now reads])).submitted = some message ∧
          ∃ a ∈ message, a.id = id) ↔
        (∃ a ∈ app.found now reads, a.id = id ∧
          alertable app.settings.alertMinSeverity a = true) ∧
        id ∉ (app.found was readsBefore).map Anomaly.id) ↔
    CutHarmless app.settings.graphMaxEdges app.settings.alertMinSeverity
      (app.found was readsBefore) (app.found now reads) := by
  simp only [submitted_iff]
  -- an alertable finding is kept by the cut when its id is
  have hkept : ∀ a ∈ app.found now reads, alertable app.settings.alertMinSeverity a = true →
      ((∃ a' ∈ (app.found now reads).take app.settings.graphMaxEdges, a'.id = a.id ∧
        alertable app.settings.alertMinSeverity a' = true ∧
        a.id ∉ ((app.found was readsBefore).take app.settings.graphMaxEdges).map Anomaly.id) ↔
      ((app.found now reads).map Anomaly.id).idxOf a.id < app.settings.graphMaxEdges ∧
        a.id ∉ ((app.found was readsBefore).take app.settings.graphMaxEdges).map Anomaly.id) := by
    intro a ha halert
    rw [← mem_take_ids (List.mem_map_of_mem ha)]
    constructor
    · intro ⟨a', ha', hid, _, hnew⟩
      exact ⟨List.mem_map.mpr ⟨a', ha', hid⟩, hnew⟩
    · intro ⟨hmem, hnew⟩
      obtain ⟨a', ha', hid⟩ := List.mem_map.mp hmem
      have halert' := alertable_of_id_eq app.settings.alertMinSeverity ha
        (List.mem_of_mem_take ha') hid
      exact ⟨a', ha', hid, halert'.trans halert, hnew⟩
  have hold : ∀ a : Anomaly, a.id ∈ (app.found was readsBefore).map Anomaly.id →
      (a.id ∈ ((app.found was readsBefore).take app.settings.graphMaxEdges).map Anomaly.id ↔
        ((app.found was readsBefore).map Anomaly.id).idxOf a.id < app.settings.graphMaxEdges) :=
    fun a hmem => mem_take_ids hmem _
  have hnone : ∀ a : Anomaly, a.id ∉ (app.found was readsBefore).map Anomaly.id →
      a.id ∉ ((app.found was readsBefore).take app.settings.graphMaxEdges).map Anomaly.id := by
    intro a hnot hmem
    rw [List.map_take] at hmem
    exact hnot (List.mem_of_mem_take hmem)
  constructor
  · intro hexact a ha halert
    have hid := (hkept a ha halert).symm.trans (hexact a.id)
    constructor
    · intro hnew
      exact (hid.mpr ⟨⟨a, ha, rfl, halert⟩, hnew⟩).1
    · intro hstanding hnow
      by_contra hbeyond
      have hnot := (hold a hstanding).not.mpr hbeyond
      exact (hid.mp ⟨hnow, hnot⟩).2 hstanding
  · intro hharmless id
    constructor
    · intro ⟨a, ha, hid, halert, hnew⟩
      subst hid
      have hmem := List.mem_of_mem_take ha
      refine ⟨⟨a, hmem, rfl, halert⟩, fun hstanding => hnew ?_⟩
      have hnow := ((hkept a hmem halert).mp ⟨a, ha, rfl, halert, hnew⟩).1
      exact (hold a hstanding).mpr ((hharmless a hmem halert).2 hstanding hnow)
    · intro ⟨⟨a, ha, hid, halert⟩, hnew⟩
      subst hid
      exact (hkept a ha halert).mpr ⟨(hharmless a ha halert).1 hnew, hnone a hnew⟩

/-! ### More new edges than the cap -/

/-- The external node as the agent reports it. -/
def externalRef : NodeRef where
  id := externalNodeId
  kind := .pod
  «namespace» := none
  name := "EXTERNAL"
  id_nonempty := by decide
  name_nonempty := by decide

/-- A connection out of the cluster from the `i`-th workload, in the tenth minute. -/
def egressEdge (i : Nat) : EdgeObservation :=
  { sampleEdge 1 Nat.one_ne_zero none 600000000 with source := fanRef i, target := externalRef }

/-- One workload more than the cap connects out of the cluster. -/
def egressBatch : IngestBatch :=
  { sampleBatchB with
    edges := (List.range (graphMaxEdges + 1)).map egressEdge
    edges_bound := by simp [graphMaxEdges] }

theorem mem_egressBatch {e : EdgeObservation} :
    e ∈ egressBatch.edges ↔ ∃ i < graphMaxEdges + 1, egressEdge i = e := by
  simp [egressBatch]

/-- The store before and after the connections: the first minute had other traffic. -/
def quietStore : InMemoryRepository := [sampleBatchA].foldl mergeBatch (.new "c")

def egressStore : InMemoryRepository := [sampleBatchA, egressBatch].foldl mergeBatch (.new "c")

/-- Every setting at its default, no canaries. -/
def defaultApp : App where
  floats := ⟨id, fun _ => "", fun _ => "", fun _ => ""⟩
  settings := {}
  casefold := id
  canaries := ⟨[]⟩

theorem egressRefs_agree :
    NodeRefsAgree ([sampleBatchA, egressBatch].flatMap IngestBatch.nodeRefs) := by
  -- every report is of a deployment under its own name, or of the external node
  have hrefs : ∀ r ∈ [sampleBatchA, egressBatch].flatMap IngestBatch.nodeRefs,
      (∃ name hname, r = sampleRef name hname) ∨ r = externalRef := by
    intro r hr
    simp only [List.flatMap_cons, List.flatMap_nil, List.append_nil, List.mem_append] at hr
    rcases hr with hr | hr
    · obtain ⟨e, he, hend⟩ := List.mem_flatMap.mp hr
      rw [List.mem_singleton.mp he] at hend
      simp only [List.mem_cons, List.not_mem_nil, or_false] at hend
      exact .inl (hend.elim (fun h => ⟨_, _, h⟩) (fun h => ⟨_, _, h⟩))
    · obtain ⟨e, he, hend⟩ := List.mem_flatMap.mp hr
      obtain ⟨i, -, rfl⟩ := mem_egressBatch.mp he
      simp only [List.mem_cons, List.not_mem_nil, or_false] at hend
      exact hend.imp (fun h => ⟨_, _, h⟩) id
  have hexternal : ∀ name : String, "k8s:c:shop:Deployment:" ++ name ≠ externalNodeId := by
    intro name h
    have hhead := congrArg (fun s : String => s.toList.head?) h
    simp [externalNodeId] at hhead
  intro r hr r' hr' hid
  obtain ⟨name, hname, rfl⟩ | rfl := hrefs r hr
  · obtain ⟨name', hname', rfl⟩ | rfl := hrefs r' hr'
    · obtain rfl : name = name' := String.append_right_inj _ |>.mp hid
      exact ⟨rfl, rfl, rfl⟩
    · exact absurd hid (hexternal name)
  · obtain ⟨name', hname', rfl⟩ | rfl := hrefs r' hr'
    · exact absurd hid.symm (hexternal name')
    · exact ⟨rfl, rfl, rfl⟩

theorem egressStore_answer (window : ResolvedWindow) :
    egressStore.queryEdges id window {} =
      answerOf ((observed id window {} [sampleBatchA, egressBatch]).map EdgeObservation.counted) :=
  queryEdges_foldl_mergeBatch id "c" window {} egressRefs_agree

/-- The window of the last pass has the connections out of the cluster, its baseline the other
    traffic. -/
theorem observed_egress :
    observed id (defaultApp.window 720000000) {} [sampleBatchA, egressBatch] =
      egressBatch.edges := by
  have hA : sampleBatchA.edges.filter (EdgeObservation.inQuery id (defaultApp.window 720000000) {})
      = [] := by decide
  have hB : egressBatch.edges.filter (EdgeObservation.inQuery id (defaultApp.window 720000000) {})
      = egressBatch.edges := by
    rw [List.filter_eq_self]
    intro e he
    obtain ⟨i, -, rfl⟩ := mem_egressBatch.mp he
    rfl
  simp only [observed, List.flatMap_cons, List.flatMap_nil, List.append_nil, List.filter_append, hA,
    hB, List.nil_append]

theorem observed_baseline :
    observed id (baselineWindow {} (defaultApp.window 720000000)) {} [sampleBatchA, egressBatch] =
      [sampleEdgeA] := by
  have hA : sampleBatchA.edges.filter (EdgeObservation.inQuery id
      (baselineWindow {} (defaultApp.window 720000000)) {}) = [sampleEdgeA] := by decide
  have hB : egressBatch.edges.filter (EdgeObservation.inQuery id
      (baselineWindow {} (defaultApp.window 720000000)) {}) = [] := by
    rw [List.filter_eq_nil_iff]
    intro e he
    obtain ⟨i, -, rfl⟩ := mem_egressBatch.mp he
    exact Bool.false_ne_true
  simp only [observed, List.flatMap_cons, List.flatMap_nil, List.append_nil, List.filter_append, hA,
    hB]

/-- The id of the anomaly of the `i`-th workload. -/
def egressId (i : Nat) : String :=
  buildEdgeId (egressEdge i).key ++ "|" ++ AnomalyType.newExternalEgress.name

theorem egressId_injective : Function.Injective egressId := by
  intro i j h
  apply fanRef_id_injective
  simpa [egressId, buildEdgeId, EdgeObservation.key, egressEdge, sampleEdge] using h

/-- All of them are found, and are critical. -/
theorem egress_found {i : Nat} (hi : i < graphMaxEdges + 1) :
    ∃ a ∈ defaultApp.found 720000000 (.same egressStore), a.id = egressId i ∧
      alertable .critical a = true := by
  have hcurrent : egressStore.queryEdges id (defaultApp.window 720000000) {} =
      answerOf (egressBatch.edges.map EdgeObservation.counted) := by
    rw [egressStore_answer, observed_egress]
  have hbaseline : egressStore.queryEdges id (baselineWindow {} (defaultApp.window 720000000)) {} =
      answerOf ([sampleEdgeA].map EdgeObservation.counted) := by
    rw [egressStore_answer, observed_baseline]
  have hkey : (egressEdge i).key ∈ (answerOf (egressBatch.edges.map
      EdgeObservation.counted)).map EdgeAggregate.key := by
    rw [mem_answerOf_keys, List.map_map]
    exact List.mem_map_of_mem (f := Prod.fst ∘ EdgeObservation.counted)
      (mem_egressBatch.mpr ⟨i, hi, rfl⟩)
  obtain ⟨edge, hedge, hek⟩ := List.mem_map.mp hkey
  -- the baseline holds another edge only
  have hnew : (baselineByKey (answerOf ([sampleEdgeA].map EdgeObservation.counted))).get?
      edge.key = none := by
    cases hget : (baselineByKey (answerOf ([sampleEdgeA].map EdgeObservation.counted))).get?
        edge.key with
    | none => rfl
    | some b =>
      obtain ⟨hmem, hbk⟩ := Dict.mem_of_get?_foldl_set hget
      have hin := List.mem_map_of_mem (f := EdgeAggregate.key) (List.mem_filter.mp hmem).1
      rw [mem_answerOf_keys, hbk, hek] at hin
      have hsame : (egressEdge i).key = sampleEdgeA.key := List.mem_singleton.mp hin
      have htargets : externalNodeId = "k8s:c:shop:Deployment:db" := congrArg EdgeKey.targetId hsame
      exact absurd htargets (by decide)
  have hobserved : (!(baselineByKey (answerOf ([sampleEdgeA].map
      EdgeObservation.counted))).entries.isEmpty) = true := by decide +kernel
  have htarget : edge.key.targetId = externalNodeId := by rw [hek]; rfl
  have hrule : ∃ rule ∈ noveltyRule (periodText defaultApp.floats (baselineWindow {}
      (defaultApp.window 720000000))) true edge none, rule.1 = .newExternalEgress := by
    simp [noveltyRule, htarget]
  obtain ⟨rule, hrule, htype⟩ := hrule
  rw [← hobserved, ← hnew, ← hbaseline] at hrule
  have hattempts : attempts edge ≠ 0 := attempts_ne_zero hedge
  rw [← hcurrent] at hedge
  have hfound : _ ∈ defaultApp.found 720000000 (.same egressStore) := mem_found_same.mpr
    ⟨edge, hedge, hattempts, rule, mem_fired.mpr (.inr (.inl hrule)), rfl⟩
  refine ⟨_, hfound, ?_, ?_⟩
  · rw [id_toAnomaly, hek, htype, egressId]
  · rw [alertable_toAnomaly, htype]
    rfl

theorem quiet_found : defaultApp.found 660000000 (.same quietStore) = [] := by
  rw [List.eq_nil_iff_forall_not_mem]
  intro a ha
  obtain ⟨edge, hedge, -⟩ := mem_found_same.mp ha
  have hempty : quietStore.queryEdges id (defaultApp.window 660000000) {} = [] := by
    decide +kernel
  have hin : edge ∈ quietStore.queryEdges id (defaultApp.window 660000000) {} := hedge
  rw [hempty] at hin
  cases hin

/-- **A new connection that is never announced**: 2001 workloads start to connect out of the
    cluster between two passes, all of them critical; the message of the second pass leaves one
    out. -/
theorem egress_beyond_cap_unannounced :
    ∃ a ∈ defaultApp.found 720000000 (.same egressStore), alertable .critical a = true ∧
      a.id ∉ (defaultApp.found 660000000 (.same quietStore)).map Anomaly.id ∧
      ∀ message, (defaultApp.run [.evaluated 660000000 (.same quietStore),
        .evaluated 720000000 (.same egressStore)]).submitted = some message →
        a.id ∉ message.map Anomaly.id := by
  by_contra hall
  have hnew : ∀ id : String, id ∉ (defaultApp.found 660000000 (.same quietStore)).map Anomaly.id := by
    intro id
    rw [quiet_found]
    exact List.not_mem_nil
  -- otherwise every one of the 2001 ids is among the first 2000 findings
  have hsub : (List.range (graphMaxEdges + 1)).map egressId ⊆
      ((defaultApp.found 720000000 (.same egressStore)).take graphMaxEdges).map Anomaly.id := by
    intro id hid
    obtain ⟨i, hi, rfl⟩ := List.mem_map.mp hid
    obtain ⟨a, ha, hida, halert⟩ := egress_found (List.mem_range.mp hi)
    have hannounced : ∃ message, (defaultApp.run [.evaluated 660000000 (.same quietStore),
        .evaluated 720000000 (.same egressStore)]).submitted = some message ∧
        ∃ a' ∈ message, a'.id = a.id := by
      by_contra hnone
      refine hall ⟨a, ha, halert, hnew a.id, ?_⟩
      intro message hmessage hmem
      obtain ⟨a', ha', hid'⟩ := List.mem_map.mp hmem
      exact hnone ⟨message, hmessage, a', ha', hid'⟩
    obtain ⟨a', ha', hid', -⟩ := (submitted_iff [] 660000000 720000000 (.same quietStore)
      (.same egressStore) 0 a.id).mp hannounced
    rw [← hida, ← hid']
    exact List.mem_map_of_mem ha'
  have hnd : ((List.range (graphMaxEdges + 1)).map egressId).Nodup :=
    List.nodup_range.map egressId_injective
  have hlen := (hnd.subperm hsub).length_le
  rw [List.length_map, List.length_range, List.length_map, List.length_take] at hlen
  omega

end TopologyVisualizer.Backend.Anomalies
