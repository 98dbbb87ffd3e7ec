import Mathlib.Algebra.Order.BigOperators.Group.List
import Mathlib.Data.Rat.Floor
import TopologyVisualizer.Backend.Graph
import TopologyVisualizer.Backend.Windows

/-! # Comparisons

    `app/domain/diff.py`, the handler of `GET /diff`, and what the canvas of
    `CompareCanvas.tsx` makes of the answer.

    Percentages are rationals, rounded half to even as Python's `round`.
    `Formats` stands for the float formats of the reason texts.

    A diff carries edges and no nodes: the canvas takes the nodes from the
    graphs of the two periods. Diff and graph cap their edges separately,
    so an edge can be listed in the diff (`Reported`) while an endpoint of it
    is beyond the caps of both graphs.
-/

namespace TopologyVisualizer.Backend

open InMemoryRepository

/-! ### Response models -/

/-- `DiffClassification`. -/
inductive DiffClassification where
  | new
  | removed
  | changed
  | unchanged
  deriving DecidableEq, Repr

/-- `DiffEdge`. -/
structure DiffEdge where
  id : String
  sourceId : String
  targetId : String
  protocol : Protocol
  destinationPort : Nat
  classification : DiffClassification
  baselineConnectionCount : Nat
  currentConnectionCount : Nat
  connectionDelta : Int
  connectionPercentDelta : Option ℚ
  baselineBytesTotal : Option Nat
  currentBytesTotal : Option Nat
  bytesPercentDelta : Option ℚ
  reason : String

def DiffEdge.key (e : DiffEdge) : EdgeKey := ⟨e.sourceId, e.targetId, e.protocol, e.destinationPort⟩

/-- `DiffSummary`. -/
structure DiffSummary where
  newCount : Nat
  removedCount : Nat
  changedCount : Nat
  unchangedCount : Nat
  truncated : Bool

/-- `DiffResponse`. -/
structure DiffResponse where
  generatedAt : Datetime
  baseline : ResolvedWindow
  current : ResolvedWindow
  thresholdPercent : ℚ
  filters : EffectiveFilters
  includeUnchanged : Bool
  edges : List DiffEdge
  summary : DiffSummary

/-! ### Classification -/

/-- The formats `{:+.2f}` and `{:g}`. -/
structure Formats where
  signed : ℚ → String
  general : ℚ → String

/-- `_bytes_total`: none means "not measured". -/
def bytesTotal (edge : Option EdgeAggregate) : Option Nat :=
  edge.bind (fun e =>
    if e.bytesSent = none ∧ e.bytesReceived = none then none
    else some (e.bytesSent.getD 0 + e.bytesReceived.getD 0))

/-- The nearest integer, the even one on a tie. -/
def roundHalfEven (x : ℚ) : Int :=
  if x - ⌊x⌋ < 1 / 2 then ⌊x⌋
  else if 1 / 2 < x - ⌊x⌋ then ⌊x⌋ + 1
  else if ⌊x⌋ % 2 = 0 then ⌊x⌋ else ⌊x⌋ + 1

/-- `round(x, 2)`. -/
def roundTwo (x : ℚ) : ℚ := roundHalfEven (x * 100) / 100

/-- `_percent_delta`: undefined against a zero baseline. The source computes with doubles, which
    may decide a tie otherwise: from 20000 to 22549 it is 12.745 %, here 12.74 and there 12.75. -/
def percentDelta (baseline current : Nat) : Option ℚ :=
  if baseline = 0 then none
  else some (roundTwo (((current : ℚ) - baseline) / baseline * 100))

/-- A change at or beyond the threshold. -/
def reaches (threshold : ℚ) (percent : Option ℚ) : Bool :=
  percent.any (fun p => threshold ≤ |p|)

/-- `_classify`. -/
def classify (fmt : Formats) (presentBefore presentAfter : Bool) (beforeCount afterCount : Nat)
    (connectionPercent bytesPercent : Option ℚ) (threshold : ℚ) : DiffClassification × String :=
  if presentAfter ∧ ¬ presentBefore then
    (.new, "absent from the baseline period and observed " ++ toString afterCount ++
      " time(s) in the current period; a period with no observation counts as zero, " ++
      "not missing data")
  else if presentBefore ∧ ¬ presentAfter then
    (.removed, "observed " ++ toString beforeCount ++
      " time(s) in the baseline period and absent from the current period")
  else if reaches threshold bytesPercent then
    (.changed, "byte volume changed by " ++ fmt.signed (bytesPercent.getD 0) ++
      "%, at or beyond the " ++ fmt.general threshold ++ "% threshold")
  else if reaches threshold connectionPercent then
    (.changed, "connection count changed from " ++ toString beforeCount ++ " to " ++
      toString afterCount ++ " (" ++ fmt.signed (connectionPercent.getD 0) ++
      "%), at or beyond the " ++ fmt.general threshold ++ "% threshold")
  else match connectionPercent with
    | none => (.unchanged, "baseline count is zero, so a percentage change is undefined; " ++
        "reported as unchanged rather than as an infinite increase")
    | some percent => (.unchanged, "connection count changed from " ++ toString beforeCount ++
        " to " ++ toString afterCount ++ " (" ++ fmt.signed percent ++ "%), within the " ++
        fmt.general threshold ++ "% threshold")

/-! ### Comparison -/

/-- The edges with successes, by key. -/
def byKey (edges : List EdgeAggregate) : Dict EdgeKey EdgeAggregate :=
  (edges.filter (fun e => e.connectionCount > 0)).foldl (fun d e => d.set e.key e) .empty

/-- Byte volume is compared only when both periods measured it. -/
def bytesPercent (before after : Option EdgeAggregate) : Option ℚ :=
  match bytesTotal before, bytesTotal after with
  | some b, some c => percentDelta b c
  | _, _ => none

/-- One classified edge. -/
def diffEdge (fmt : Formats) (threshold : ℚ) (key : EdgeKey)
    (before after : Option EdgeAggregate) : DiffEdge :=
  let beforeCount := (before.map EdgeAggregate.connectionCount).getD 0
  let afterCount := (after.map EdgeAggregate.connectionCount).getD 0
  let classified := classify fmt before.isSome after.isSome beforeCount afterCount
    (percentDelta beforeCount afterCount) (bytesPercent before after) threshold
  { id := buildEdgeId key
    sourceId := key.sourceId
    targetId := key.targetId
    protocol := key.protocol
    destinationPort := key.destinationPort
    classification := classified.1
    baselineConnectionCount := beforeCount
    currentConnectionCount := afterCount
    connectionDelta := (afterCount : Int) - beforeCount
    connectionPercentDelta := percentDelta beforeCount afterCount
    baselineBytesTotal := bytesTotal before
    currentBytesTotal := bytesTotal after
    bytesPercentDelta := bytesPercent before after
    reason := classified.2 }

/-- The classified edges before the cap, in key order. -/
def diffResults (fmt : Formats) (threshold : ℚ) (includeUnchanged : Bool)
    (baseline current : Dict EdgeKey EdgeAggregate) : List DiffEdge :=
  ((sortOn id (baseline.keys ++ current.keys).dedup).map (fun key =>
    diffEdge fmt threshold key (baseline.get? key) (current.get? key))).filter (fun e =>
      !(e.classification = .unchanged && !includeUnchanged))

/-- `compare`. -/
def compare (fmt : Formats) (baselineEdges currentEdges : List EdgeAggregate)
    (baselineWindow currentWindow : ResolvedWindow) (threshold : ℚ) (filters : EffectiveFilters)
    (generatedAt : Datetime) (includeUnchanged : Bool) (maxEdges : Nat) : DiffResponse :=
  let results := diffResults fmt threshold includeUnchanged (byKey baselineEdges)
    (byKey currentEdges)
  let shown := results.take maxEdges
  let count := fun c => (shown.filter (fun e => e.classification = c)).length
  { generatedAt := generatedAt
    baseline := baselineWindow
    current := currentWindow
    thresholdPercent := threshold
    filters := filters
    includeUnchanged := includeUnchanged
    edges := shown
    summary :=
      { newCount := count .new
        removedCount := count .removed
        changedCount := count .changed
        unchangedCount := count .unchanged
        truncated := results.length > maxEdges } }

/-- `get_diff`, for resolved periods and both queries on one store. -/
def getDiff (fmt : Formats) (casefold : String → String) (store : InMemoryRepository)
    (baseline current : ResolvedWindow) (threshold : ℚ) (filters : EffectiveFilters)
    (generatedAt : Datetime) (includeUnchanged : Bool) : Except String DiffResponse :=
  match validateDiffPeriods baseline current with
  | .error message => .error message
  | .ok () => .ok (compare fmt (store.queryEdges casefold baseline filters.toEdgeFilters)
      (store.queryEdges casefold current filters.toEdgeFilters) baseline current threshold filters
      generatedAt includeUnchanged graphMaxEdges)

/-! ### The canvas -/

/-- The nodes of both periods by id, the current period's record last. -/
def knownNodes (baseline current : GraphResponse) : Dict String GraphNode :=
  (baseline.nodes ++ current.nodes).foldl (fun d n => d.set n.id n) .empty

/-- `collectNodes`: the endpoints of the diff, split into those with a record and those
    without. -/
def collectNodes (diff : DiffResponse) (known : Dict String GraphNode) :
    List GraphNode × List String :=
  let ids := (diff.edges.flatMap (fun e => [e.sourceId, e.targetId])).foldl appendNew []
  (ids.filterMap known.get?, ids.filter (fun nid => (known.get? nid).isNone))

/-- The edges the canvas draws: both endpoints have a record. -/
def drawnEdges (diff : DiffResponse) (known : Dict String GraphNode) : List DiffEdge :=
  let drawable := (collectNodes diff known).1.map GraphNode.id
  diff.edges.filter (fun e => e.sourceId ∈ drawable ∧ e.targetId ∈ drawable)

/-! ### What a diff lists -/

/-- The edge of a key with successes in a period, if there is one. -/
def positiveIn (answer : List EdgeAggregate) (k : EdgeKey) : Option EdgeAggregate :=
  (aggregateOf answer k).filter (fun e => e.connectionCount > 0)

/-- The two periods differ on an edge: it is in one of them only, or its byte volume or its
    connection count changed by the threshold. -/
def differs (threshold : ℚ) (before after : Option EdgeAggregate) : Bool :=
  match before, after with
  | none, none => false
  | some b, some c =>
    reaches threshold (bytesPercent (some b) (some c)) ||
      reaches threshold (percentDelta b.connectionCount c.connectionCount)
  | _, _ => true

/-- A key with successes in a period is listed when the periods differ on it, or when unchanged
    edges are asked for. -/
def listed (threshold : ℚ) (includeUnchanged : Bool) (baseline current : List EdgeAggregate)
    (k : EdgeKey) : Bool :=
  ((positiveIn baseline k).isSome || (positiveIn current k).isSome) &&
    (includeUnchanged || differs threshold (positiveIn baseline k) (positiveIn current k))

/-- The listed keys of either period. -/
def listedKeys (threshold : ℚ) (includeUnchanged : Bool) (baseline current : List EdgeAggregate) :
    List EdgeKey :=
  ((baseline ++ current).map EdgeAggregate.key).dedup.filter
    (listed threshold includeUnchanged baseline current)

/-- A listed key within the cap: up to it there are at most `maxEdges` listed keys. -/
def Reported (maxEdges : Nat) (threshold : ℚ) (includeUnchanged : Bool)
    (baseline current : List EdgeAggregate) (k : EdgeKey) : Prop :=
  k ∈ listedKeys threshold includeUnchanged baseline current ∧
    ((listedKeys threshold includeUnchanged baseline current).filter (fun k' => k' ≤ k)).length ≤
      maxEdges

/-! ### The keys of a diff -/

section listing
variable {baseline current : List EdgeAggregate}

theorem mem_of_positiveIn {answer : List EdgeAggregate} {k : EdgeKey}
    (h : (positiveIn answer k).isSome) : k ∈ answer.map EdgeAggregate.key := by
  obtain ⟨a, ha⟩ := Option.isSome_iff_exists.mp h
  obtain ⟨hmem, rfl⟩ := key_of_aggregateOf (Option.filter_eq_some_iff.mp ha).1
  exact List.mem_map_of_mem hmem

/-- When the keys are distinct, `byKey` holds the edge of each key. -/
theorem get?_byKey {answer : List EdgeAggregate}
    (hnd : (answer.map EdgeAggregate.key).Nodup) (k : EdgeKey) :
    (byKey answer).get? k = positiveIn answer k := by
  unfold byKey positiveIn
  apply Option.ext
  intro a
  rw [Option.filter_eq_some_iff]
  constructor
  · intro ha
    obtain ⟨hmem, rfl⟩ := Dict.mem_of_get?_foldl_set ha
    rw [List.mem_filter] at hmem
    exact ⟨(aggregateOf_eq_some_iff hnd).mpr hmem.1, hmem.2⟩
  · rintro ⟨hfind, hpos⟩
    obtain ⟨hin, rfl⟩ := key_of_aggregateOf hfind
    have hmem : a ∈ answer.filter (fun e => e.connectionCount > 0) :=
      List.mem_filter.mpr ⟨hin, hpos⟩
    have hsome : ((byKey answer).get? a.key).isSome := Dict.isSome_get?_foldl_set.mpr ⟨a, hmem, rfl⟩
    obtain ⟨b, hb⟩ := Option.isSome_iff_exists.mp hsome
    obtain ⟨hmem', hkey⟩ := Dict.mem_of_get?_foldl_set hb
    have heq : b = a := List.inj_on_of_nodup_map hnd (List.mem_filter.mp hmem').1 hin hkey
    rw [heq] at hb
    exact hb

/-- An edge of some period is classified `UNCHANGED` exactly when the periods do not differ on
    it. -/
theorem diffEdge_unchanged_iff (fmt : Formats) (threshold : ℚ) (k : EdgeKey)
    {before after : Option EdgeAggregate} (hpresent : before.isSome ∨ after.isSome) :
    (diffEdge fmt threshold k before after).classification = .unchanged ↔
      differs threshold before after = false := by
  unfold diffEdge
  cases before with
  | none =>
    cases after with
    | none => simp at hpresent
    | some c => simp [classify, differs]
  | some b =>
    cases after with
    | none => simp [classify, differs]
    | some c =>
      simp only [classify, differs, Option.isSome_some, not_true_eq_false, and_false, if_false,
        Option.map_some, Option.getD_some, Bool.or_eq_false_iff]
      -- present in both: magnitude decides, bytes first
      by_cases hbytes : reaches threshold (bytesPercent (some b) (some c)) = true
      · simp [hbytes]
      · by_cases hcount :
            reaches threshold (percentDelta b.connectionCount c.connectionCount) = true
        · simp [hbytes, hcount]
        · rw [if_neg hbytes, if_neg hcount]
          simp only [Bool.eq_false_iff.mpr hbytes, Bool.eq_false_iff.mpr hcount, and_self, iff_true]
          cases percentDelta b.connectionCount c.connectionCount with
          | none => rfl
          | some percent => rfl

theorem mem_byKey_keys {answer : List EdgeAggregate}
    (hnd : (answer.map EdgeAggregate.key).Nodup) {k : EdgeKey} :
    k ∈ (byKey answer).keys ↔ (positiveIn answer k).isSome := by
  rw [Dict.mem_keys_iff, get?_byKey hnd, Option.isSome_iff_exists]

theorem listedKeys_nodup (threshold : ℚ) (includeUnchanged : Bool)
    (baseline current : List EdgeAggregate) :
    (listedKeys threshold includeUnchanged baseline current).Nodup :=
  (List.nodup_dedup _).filter _

theorem mem_listedKeys {threshold : ℚ} {includeUnchanged : Bool} {k : EdgeKey} :
    k ∈ listedKeys threshold includeUnchanged baseline current ↔
      listed threshold includeUnchanged baseline current k = true := by
  unfold listedKeys
  rw [List.mem_filter, List.mem_dedup, List.map_append, List.mem_append, and_iff_right_iff_imp]
  intro hlisted
  unfold listed at hlisted
  rw [Bool.and_eq_true, Bool.or_eq_true] at hlisted
  exact hlisted.1.imp mem_of_positiveIn mem_of_positiveIn

/-- The diff lists exactly the listed keys, in order. -/
theorem diffResults_keys (hbaseline : (baseline.map EdgeAggregate.key).Nodup)
    (hcurrent : (current.map EdgeAggregate.key).Nodup) (fmt : Formats) (threshold : ℚ)
    (includeUnchanged : Bool) :
    (diffResults fmt threshold includeUnchanged (byKey baseline) (byKey current)).map
        DiffEdge.key =
      sortOn id (listedKeys threshold includeUnchanged baseline current) := by
  unfold diffResults
  rw [List.filter_map, List.map_map]
  show List.map id _ = _
  rw [List.map_id]
  apply strict_eq_of_mem_iff ((sortOn_id_strict (List.nodup_dedup _)).filter _)
    (sortOn_id_strict (listedKeys_nodup _ _ _ _))
  intro k
  rw [mem_sortOn, mem_listedKeys, List.mem_filter, mem_sortOn, List.mem_dedup, List.mem_append,
    mem_byKey_keys hbaseline, mem_byKey_keys hcurrent, Function.comp_apply, get?_byKey hbaseline,
    get?_byKey hcurrent]
  unfold listed
  rw [Bool.and_eq_true, Bool.or_eq_true]
  apply and_congr_right
  intro hpresent
  have hclass := diffEdge_unchanged_iff fmt threshold k hpresent
  cases includeUnchanged with
  | true => simp
  | false =>
    simp only [hclass, Bool.not_false, Bool.and_true, Bool.false_or]
    simp

/-- **The cap**: the edges of a diff are those of the reported keys. -/
theorem mem_compare_keys (hbaseline : (baseline.map EdgeAggregate.key).Nodup)
    (hcurrent : (current.map EdgeAggregate.key).Nodup) {fmt : Formats}
    {baselineWindow currentWindow : ResolvedWindow} {threshold : ℚ} {filters : EffectiveFilters}
    {generatedAt : Datetime} {includeUnchanged : Bool} {maxEdges : Nat} {k : EdgeKey} :
    k ∈ (compare fmt baseline current baselineWindow currentWindow threshold filters generatedAt
        includeUnchanged maxEdges).edges.map DiffEdge.key ↔
      Reported maxEdges threshold includeUnchanged baseline current k := by
  show k ∈ (List.take maxEdges _).map DiffEdge.key ↔ _
  rw [List.map_take, diffResults_keys hbaseline hcurrent]
  unfold Reported
  generalize hkeys : listedKeys threshold includeUnchanged baseline current = keys
  have hstrict : ((sortOn id keys).map id).Pairwise (· < ·) := by
    rw [List.map_id, ← hkeys]
    exact sortOn_id_strict (listedKeys_nodup _ _ _ _)
  have hrank : ((sortOn id keys).filter (fun k' => k' ≤ k)).length =
      (keys.filter (fun k' => k' ≤ k)).length := ((sortOn_perm id keys).filter _).length_eq
  rw [← hrank]
  constructor
  · intro hmem
    have hin : k ∈ sortOn id keys := List.mem_of_mem_take hmem
    exact ⟨mem_sortOn.mp hin, (mem_take_iff_rank hstrict hin).mp hmem⟩
  · rintro ⟨hin, hle⟩
    exact (mem_take_iff_rank hstrict (mem_sortOn.mpr hin)).mpr hle

end listing

/-! ### Drawing a comparison -/

/-- The canvas has every endpoint of the diff: each is a node of one of the graphs, so none is
    unresolved and no edge is left out. -/
def DiffResponse.Drawable (diff : DiffResponse) (baseline current : GraphResponse) : Prop :=
  (∀ e ∈ diff.edges, ∀ nid ∈ [e.sourceId, e.targetId],
    nid ∈ baseline.nodes.map GraphNode.id ∨ nid ∈ current.nodes.map GraphNode.id) ∧
  (collectNodes diff (knownNodes baseline current)).2 = [] ∧
  drawnEdges diff (knownNodes baseline current) = diff.edges

theorem isSome_knownNodes {baseline current : GraphResponse} {nid : String} :
    ((knownNodes baseline current).get? nid).isSome ↔
      nid ∈ baseline.nodes.map GraphNode.id ∨ nid ∈ current.nodes.map GraphNode.id := by
  unfold knownNodes
  rw [Dict.isSome_get?_foldl_set, ← List.mem_append, ← List.map_append, List.mem_map]

/-- What the canvas does follows from the endpoints being known. -/
theorem drawable_of_known {diff : DiffResponse} {baseline current : GraphResponse}
    (h : ∀ e ∈ diff.edges, ∀ nid ∈ [e.sourceId, e.targetId],
      nid ∈ baseline.nodes.map GraphNode.id ∨ nid ∈ current.nodes.map GraphNode.id) :
    diff.Drawable baseline current := by
  have hmem : ∀ nid, nid ∈ (diff.edges.flatMap (fun e => [e.sourceId, e.targetId])).foldl
      appendNew [] ↔ ∃ e ∈ diff.edges, nid ∈ [e.sourceId, e.targetId] := by
    intro nid
    rw [mem_foldl_appendNew, List.mem_flatMap]
    simp
  have hdrawable : ∀ e ∈ diff.edges, ∀ nid ∈ [e.sourceId, e.targetId],
      nid ∈ (collectNodes diff (knownNodes baseline current)).1.map GraphNode.id := by
    intro e he nid hnid
    obtain ⟨n, hn⟩ := Option.isSome_iff_exists.mp (isSome_knownNodes.mpr (h e he nid hnid))
    refine List.mem_map.mpr ⟨n, List.mem_filterMap.mpr ⟨nid, (hmem nid).mpr ⟨e, he, hnid⟩, hn⟩, ?_⟩
    exact (Dict.mem_of_get?_foldl_set hn).2
  refine ⟨h, ?_, ?_⟩
  · show List.filter _ _ = []
    rw [List.filter_eq_nil_iff]
    intro nid hnid
    obtain ⟨e, he, hend⟩ := (hmem nid).mp hnid
    have hknown := isSome_knownNodes.mpr (h e he nid hend)
    rw [Option.isSome_iff_ne_none] at hknown
    rwa [Option.isNone_iff_eq_none]
  · show List.filter _ _ = _
    rw [List.filter_eq_self]
    intro e he
    apply decide_eq_true
    exact ⟨hdrawable e he _ (by simp), hdrawable e he _ (by simp)⟩

section drawing
variable {fmt : Formats} {casefold : String → String} {canaries : CanarySet}
  {store : InMemoryRepository} {baseline current : ResolvedWindow} {threshold : ℚ}
  {filters : EffectiveFilters} {diffAt baselineAt currentAt : Datetime} {includeUnchanged : Bool}
  {diff : DiffResponse}

/-- An endpoint of an edge that the graph of this answer shows. -/
def Pictured (answer : List EdgeAggregate) (nid : String) : Prop :=
  ∃ a, Shown graphMaxNodes graphMaxEdges answer a ∧ (nid = a.key.sourceId ∨ nid = a.key.targetId)

/-- On one store, the nodes of a graph are the endpoints it shows. -/
theorem mem_nodes_iff_pictured (hkeyed : Keyed store.nodes) {window : ResolvedWindow}
    {at' : Datetime} {nid : String} :
    nid ∈ (getGraph casefold canaries store store window filters at').nodes.map GraphNode.id ↔
      Pictured (store.queryEdges casefold window filters.toEdgeFilters) nid := by
  rw [mem_getGraph_nodes hkeyed]
  apply and_iff_right_of_imp
  rintro ⟨a, hshown, hnid⟩
  obtain ⟨hsource, htarget⟩ := contains_of_mem_queryEdges hshown.1
  obtain rfl | rfl := hnid
  · exact hsource
  · exact htarget

theorem getDiff_drawable_iff (hkeyed : Keyed store.nodes)
    (hdiff : getDiff fmt casefold store baseline current threshold filters diffAt
      includeUnchanged = .ok diff) :
    diff.Drawable (getGraph casefold canaries store store baseline filters baselineAt)
        (getGraph casefold canaries store store current filters currentAt) ↔
      ∀ k, Reported graphMaxEdges threshold includeUnchanged
          (store.queryEdges casefold baseline filters.toEdgeFilters)
          (store.queryEdges casefold current filters.toEdgeFilters) k →
        ∀ nid ∈ [k.sourceId, k.targetId],
          Pictured (store.queryEdges casefold baseline filters.toEdgeFilters) nid ∨
          Pictured (store.queryEdges casefold current filters.toEdgeFilters) nid := by
  have hkeys : ∀ k, k ∈ diff.edges.map DiffEdge.key ↔ Reported graphMaxEdges threshold
      includeUnchanged (store.queryEdges casefold baseline filters.toEdgeFilters)
      (store.queryEdges casefold current filters.toEdgeFilters) k := by
    intro k
    unfold getDiff at hdiff
    split at hdiff
    · cases hdiff
    · cases hdiff
      exact mem_compare_keys (queryEdges_strict _ _ _ _).nodup (queryEdges_strict _ _ _ _).nodup
  constructor
  · rintro ⟨hknown, -, -⟩ k hk nid hnid
    obtain ⟨e, he, rfl⟩ := List.mem_map.mp ((hkeys k).mpr hk)
    exact (hknown e he nid hnid).imp (mem_nodes_iff_pictured hkeyed).mp
      (mem_nodes_iff_pictured hkeyed).mp
  · intro hpictured
    apply drawable_of_known
    intro e he nid hnid
    have hreported := (hkeys e.key).mp (List.mem_map_of_mem he)
    exact (hpictured e.key hreported nid hnid).imp (mem_nodes_iff_pictured hkeyed).mpr
      (mem_nodes_iff_pictured hkeyed).mpr

end drawing

/-- **A comparison is drawn exactly when the caps let it**: on every reachable store and for
    every two periods that do not overlap, the canvas has every endpoint of the diff exactly
    when each endpoint of a reported key is an endpoint of an edge within the caps of one of the
    two graphs. -/
theorem comparison_drawable_iff (fmt : Formats) (casefold : String → String) (canaries : CanarySet)
    (clusterId : String) (calls : List StoreCall) (baseline current : ResolvedWindow)
    (threshold : ℚ) (filters : EffectiveFilters) (diffAt baselineAt currentAt : Datetime)
    (includeUnchanged : Bool) (diff : DiffResponse)
    (hdiff : getDiff fmt casefold ((InMemoryRepository.new clusterId).applyAll calls) baseline
      current threshold filters diffAt includeUnchanged = .ok diff) :
    let store := (InMemoryRepository.new clusterId).applyAll calls
    diff.Drawable (getGraph casefold canaries store store baseline filters baselineAt)
        (getGraph casefold canaries store store current filters currentAt) ↔
      ∀ k, Reported graphMaxEdges threshold includeUnchanged
          (store.queryEdges casefold baseline filters.toEdgeFilters)
          (store.queryEdges casefold current filters.toEdgeFilters) k →
        ∀ nid ∈ [k.sourceId, k.targetId],
          Pictured (store.queryEdges casefold baseline filters.toEdgeFilters) nid ∨
          Pictured (store.queryEdges casefold current filters.toEdgeFilters) nid :=
  getDiff_drawable_iff (keyed_applyAll (keyed_new clusterId) calls) hdiff

/-- Three connections in one minute and one in the next: the edge is drawn as changed. -/
theorem comparison_drawable_two_minutes :
    let store := (InMemoryRepository.new "c").applyAll [.ingest sampleBatchA, .ingest sampleBatchC]
    ∃ diff, getDiff ⟨fun _ => "", fun _ => ""⟩ id store ⟨0, 60000000⟩ ⟨60000000, 120000000⟩ 20 {} 0
        false = .ok diff ∧
      diff.edges.map DiffEdge.classification = [.changed] ∧
      diff.Drawable (getGraph id ⟨[]⟩ store store ⟨0, 60000000⟩ {} 0)
        (getGraph id ⟨[]⟩ store store ⟨60000000, 120000000⟩ {} 0) := by
  refine ⟨_, rfl, by decide +kernel, ?_⟩
  apply (comparison_drawable_iff _ id ⟨[]⟩ "c" [.ingest sampleBatchA, .ingest sampleBatchC] _ _ _ _
    0 0 0 false _ rfl).mpr
  have hlisted : ∀ k ∈ listedKeys 20 false
      (((InMemoryRepository.new "c").applyAll [.ingest sampleBatchA, .ingest sampleBatchC]).queryEdges
        id ⟨0, 60000000⟩ {})
      (((InMemoryRepository.new "c").applyAll [.ingest sampleBatchA, .ingest sampleBatchC]).queryEdges
        id ⟨60000000, 120000000⟩ {}), k = sampleEdgeA.key := by decide +kernel
  intro k hk nid hnid
  obtain rfl := hlisted k hk.1
  refine .inl ⟨toAggregate sampleEdgeA.counted, ⟨?_, ?_, ?_⟩, ?_⟩
  · decide +kernel
  · decide +kernel
  · decide +kernel
  · simp only [List.mem_cons, List.not_mem_nil, or_false] at hnid
    exact hnid

/-! ### A fan beyond the node cap -/

/-- The names `t`, `tt`, and so on. -/
def fanName (i : Nat) : String := String.ofList (List.replicate (i + 1) 't')

theorem fanName_injective : Function.Injective fanName := by
  intro i j h
  have hlists := String.ofList_injective h
  have hlen := congrArg List.length hlists
  simp only [List.length_replicate] at hlen
  omega

theorem fanName_ne_empty (i : Nat) : fanName i ≠ "" := by
  intro h
  have hlists : List.replicate (i + 1) 't' = [] := String.ofList_injective h
  simp at hlists

def fanRef (i : Nat) : NodeRef := sampleRef (fanName i) (fanName_ne_empty i)

theorem fanRef_id_injective : Function.Injective (fun i => (fanRef i).id) := by
  intro i j h
  apply fanName_injective
  have h' : "k8s:c:shop:Deployment:" ++ fanName i = "k8s:c:shop:Deployment:" ++ fanName j := h
  exact String.append_right_inj _ |>.mp h'

/-- One connection from the first node to the `i`-th after it. -/
def fanEdge (i : Nat) : EdgeObservation :=
  { sampleEdgeA with source := fanRef 0, target := fanRef (i + 1) }

/-- A fan of as many edges as the graph may have nodes. -/
def fanBatch : IngestBatch :=
  { sampleBatchA with
    edges := (List.range graphMaxNodes).map fanEdge
    edges_bound := by simp [graphMaxNodes] }

theorem mem_fanBatch {e : EdgeObservation} :
    e ∈ fanBatch.edges ↔ ∃ i < graphMaxNodes, fanEdge i = e := by
  simp [fanBatch]

/-- The store after the fan. -/
def fanStore : InMemoryRepository := (InMemoryRepository.new "c").applyAll [.ingest fanBatch]

theorem fanRefs_agree : NodeRefsAgree ([fanBatch].flatMap IngestBatch.nodeRefs) := by
  have hfan : ∀ r ∈ [fanBatch].flatMap IngestBatch.nodeRefs, ∃ i, r = fanRef i := by
    intro r hr
    rw [List.flatMap_singleton] at hr
    obtain ⟨e, he, hend⟩ := List.mem_flatMap.mp hr
    obtain ⟨i, -, rfl⟩ := mem_fanBatch.mp he
    simp only [List.mem_cons, List.not_mem_nil, or_false] at hend
    exact hend.elim (fun h => ⟨0, h⟩) (fun h => ⟨i + 1, h⟩)
  intro r hr r' hr' hid
  obtain ⟨i, rfl⟩ := hfan r hr
  obtain ⟨j, rfl⟩ := hfan r' hr'
  obtain rfl := fanRef_id_injective hid
  exact ⟨rfl, rfl, rfl⟩

theorem fanStore_answer (window : ResolvedWindow) :
    fanStore.queryEdges id window {} =
      answerOf ((observed id window {} [fanBatch]).map EdgeObservation.counted) := by
  have hstore : fanStore = [fanBatch].foldl mergeBatch (.new "c") := by
    simp [fanStore, applyAll, apply, ingestBatch, InMemoryRepository.new]
  rw [hstore]
  exact queryEdges_foldl_mergeBatch id "c" window {} fanRefs_agree

/-- The fan lies in the first minute. -/
theorem observed_fan : observed id ⟨0, 60000000⟩ {} [fanBatch] = fanBatch.edges := by
  unfold observed
  rw [List.flatMap_singleton, List.filter_eq_self]
  intro e he
  obtain ⟨i, -, rfl⟩ := mem_fanBatch.mp he
  rfl

theorem observed_after_fan : observed id ⟨60000000, 120000000⟩ {} [fanBatch] = [] := by
  unfold observed
  rw [List.flatMap_singleton, List.filter_eq_nil_iff]
  intro e he
  obtain ⟨i, -, rfl⟩ := mem_fanBatch.mp he
  exact Bool.false_ne_true

/-- The keys of the fan, all in the first minute. -/
theorem mem_fan_keys {k : EdgeKey} :
    k ∈ (fanStore.queryEdges id ⟨0, 60000000⟩ {}).map EdgeAggregate.key ↔
      ∃ i < graphMaxNodes, (fanEdge i).key = k := by
  rw [fanStore_answer, observed_fan, mem_answerOf_keys, List.map_map, List.mem_map]
  constructor
  · rintro ⟨e, he, rfl⟩
    obtain ⟨i, hi, rfl⟩ := mem_fanBatch.mp he
    exact ⟨i, hi, rfl⟩
  · rintro ⟨i, hi, rfl⟩
    exact ⟨fanEdge i, mem_fanBatch.mpr ⟨i, hi, rfl⟩, rfl⟩

/-- Every edge of the fan has successes. -/
theorem positiveIn_fan {i : Nat} (hi : i < graphMaxNodes) :
    (positiveIn (fanStore.queryEdges id ⟨0, 60000000⟩ {}) (fanEdge i).key).isSome := by
  obtain ⟨a, ha, hkey⟩ := List.mem_map.mp (mem_fan_keys.mpr ⟨i, hi, rfl⟩)
  have hfind := (aggregateOf_eq_some_iff (queryEdges_strict id fanStore _ _).nodup).mpr ha
  rw [hkey] at hfind
  rw [fanStore_answer, observed_fan] at ha
  have hsum := answerOf_sums ha
  have hpos : a.connectionCount > 0 := by
    change a.bucket.connectionCount > 0
    obtain ⟨b, hb⟩ := List.exists_mem_of_ne_nil _ hsum.nonempty
    obtain ⟨e, he, rfl⟩ := List.mem_map.mp hb
    obtain ⟨j, -, rfl⟩ := mem_fanBatch.mp (List.mem_of_mem_filter he)
    have hle := List.le_sum_of_mem (List.mem_map_of_mem (f := Bucket.connectionCount) hb)
    rw [← hsum.connectionCount] at hle
    exact lt_of_lt_of_le (show 0 < 3 by decide) hle
  rw [positiveIn, hfind, Option.filter_some, if_pos (decide_eq_true hpos)]
  rfl

/-- All edges of the fan are reported as removed, 500 being within the cap on edges. -/
theorem reported_fan {i : Nat} (hi : i < graphMaxNodes) :
    Reported graphMaxEdges 20 false (fanStore.queryEdges id ⟨0, 60000000⟩ {}) []
      (fanEdge i).key := by
  constructor
  · obtain ⟨a, ha⟩ := Option.isSome_iff_exists.mp (positiveIn_fan hi)
    rw [mem_listedKeys, listed, ha]
    rfl
  · have hsub : listedKeys 20 false (fanStore.queryEdges id ⟨0, 60000000⟩ {}) [] ⊆
        (List.range graphMaxNodes).map (fun i => (fanEdge i).key) := by
      intro k hk
      have hmem := List.mem_dedup.mp (List.mem_of_mem_filter hk)
      rw [List.append_nil] at hmem
      obtain ⟨j, hj, rfl⟩ := mem_fan_keys.mp hmem
      exact List.mem_map.mpr ⟨j, List.mem_range.mpr hj, rfl⟩
    have hlen := ((listedKeys_nodup _ _ _ _).subperm hsub).length_le
    rw [List.length_map, List.length_range] at hlen
    exact (List.length_filter_le _ _).trans (hlen.trans (by decide))

/-- **A fan over 501 nodes, gone in the next minute**: the diff reports its 500 edges as removed,
    while no graph has more than 500 nodes. -/
theorem fan_not_drawable :
    ∃ diff, getDiff ⟨fun _ => "", fun _ => ""⟩ id fanStore ⟨0, 60000000⟩ ⟨60000000, 120000000⟩ 20
        {} 0 false = .ok diff ∧
      ¬ diff.Drawable (getGraph id ⟨[]⟩ fanStore fanStore ⟨0, 60000000⟩ {} 0)
        (getGraph id ⟨[]⟩ fanStore fanStore ⟨60000000, 120000000⟩ {} 0) := by
  refine ⟨_, rfl, ?_⟩
  intro hdrawable
  have hpictured := (getDiff_drawable_iff (keyed_applyAll (keyed_new "c") [.ingest fanBatch])
    rfl).mp hdrawable
  have hempty : fanStore.queryEdges id ⟨60000000, 120000000⟩ {} = [] := by
    rw [fanStore_answer, observed_after_fan]
    rfl
  -- nothing is pictured in the empty period
  have hends : ∀ i < graphMaxNodes, ∀ nid ∈ [(fanEdge i).key.sourceId, (fanEdge i).key.targetId],
      nid ∈ endpoints (truncate graphMaxNodes graphMaxEdges
        (fanStore.queryEdges id ⟨0, 60000000⟩ {})).1 := by
    intro i hi nid hnid
    have hreported := reported_fan hi
    rw [← hempty] at hreported
    obtain ⟨a, hshown, hend⟩ | ⟨a, hshown, -⟩ := hpictured (fanEdge i).key hreported nid hnid
    · exact mem_endpoints.mpr ⟨a, (mem_truncate_iff (queryEdges_strict _ _ _ _)).mpr hshown, hend⟩
    · have hmem : a ∈ fanStore.queryEdges id ⟨60000000, 120000000⟩ {} := hshown.1
      rw [hempty] at hmem
      cases hmem
  have hnodes : (Finset.range (graphMaxNodes + 1)).image (fun i => (fanRef i).id) ⊆
      (endpoints (truncate graphMaxNodes graphMaxEdges
        (fanStore.queryEdges id ⟨0, 60000000⟩ {})).1).toFinset := by
    intro nid hnid
    obtain ⟨i, hi, rfl⟩ := Finset.mem_image.mp hnid
    rw [Finset.mem_range] at hi
    rw [List.mem_toFinset]
    cases i with
    | zero => exact hends 0 (by decide) _ List.mem_cons_self
    | succ j => exact hends j (by omega) _ (List.mem_cons_of_mem _ List.mem_cons_self)
  have hcard := Finset.card_le_card hnodes
  rw [Finset.card_image_of_injective _ fanRef_id_injective, Finset.card_range] at hcard
  have hcap := card_endpoints_truncate graphMaxNodes graphMaxEdges
    (fanStore.queryEdges id ⟨0, 60000000⟩ {})
  omega

end TopologyVisualizer.Backend
