import TopologyVisualizer.Backend.Anomalies
import TopologyVisualizer.Wire

/-! # Canary Contacts

    A contact with a canary is counted twice, in two ways: `ingest_batch` of
    `app/api/routes.py` counts it from the batch, on the fields of the
    reported target and behind the replay gate; the rules find it later in
    the stored aggregates, on the fields of the stored node.

    Both are sums of attempts. The first runs over the observations of the
    fresh batches (`foldl_post_eq`), the second over the edges of an answer
    (`sum_canaryContacts`), and an answer that leaves nothing out has the
    attempts of its observations (`sum_answerOf`).
-/

namespace TopologyVisualizer.Backend

open InMemoryRepository Anomalies

/-! ### Counting at ingestion -/

/-- `attempts` of an observation. -/
def EdgeObservation.attempts (e : EdgeObservation) : Nat :=
  e.connectionCount + e.failedConnectionCount.getD 0

/-- Whether a reported node is a canary. -/
def CanarySet.matchesRef (canaries : CanarySet) (r : NodeRef) : Bool :=
  canaries.matches r.namespace r.kind.name r.name

/-- `_count_canary_contacts`, as far as the counter goes. -/
def countCanaryContacts (canaries : CanarySet) (batch : IngestBatch) (counter : Nat) : Nat :=
  batch.edges.foldl (fun n edge =>
    if !canaries.matchesRef edge.target then n else n + edge.attempts) counter

/-- The state of the API that ingestion writes: the repository and the canary counter. -/
structure Api where
  repo : InMemoryRepository
  canaryContacts : Nat := 0

/-- `ingest_batch` of the routes, for a body that Pydantic accepted. -/
def Api.post (canaries : CanarySet) (api : Api) (batch : IngestBatch) : Api :=
  match Wire.routeCheck batch with
  | some _ => api
  | none =>
    match api.repo.ingestBatch batch with
    -- only a newly stored batch is counted
    | (repo, .ingested) => ⟨repo, countCanaryContacts canaries batch api.canaryContacts⟩
    | (repo, .alreadyIngested) => ⟨repo, api.canaryContacts⟩

/-- A sequence of requests, from an empty store. -/
def postAll (canaries : CanarySet) (clusterId : String) (posts : List IngestBatch) : Api :=
  posts.foldl (Api.post canaries) { repo := .new clusterId }

/-- The batches that reach the repository. -/
def routed (posts : List IngestBatch) : List IngestBatch :=
  posts.filter (fun b => (Wire.routeCheck b).isNone)

/-- The attempts of the contacts among some observations. -/
def contacts (canaries : CanarySet) (es : List EdgeObservation) : Nat :=
  (es.map (fun e => if canaries.matchesRef e.target then e.attempts else 0)).sum

theorem countCanaryContacts_eq (canaries : CanarySet) (batch : IngestBatch) (counter : Nat) :
    countCanaryContacts canaries batch counter = counter + contacts canaries batch.edges := by
  have hloop : ∀ (es : List EdgeObservation) (n : Nat), es.foldl (fun n edge =>
      if !canaries.matchesRef edge.target then n else n + edge.attempts) n =
        n + contacts canaries es := by
    intro es
    induction es with
    | nil => intro n; rfl
    | cons e es ih =>
      intro n
      rw [List.foldl_cons, ih]
      by_cases hmatch : canaries.matchesRef e.target = true
      · simp [contacts, hmatch]
        omega
      · simp [contacts, hmatch]
  exact hloop batch.edges counter

/-- What one request does: nothing, or one call of the repository and its contacts. -/
theorem post_eq (canaries : CanarySet) (api : Api) (batch : IngestBatch) :
    api.post canaries batch =
      if (Wire.routeCheck batch).isSome ∨ batch.batchId ∈ api.repo.batches then api
      else ⟨api.repo.mergeBatch batch, api.canaryContacts + contacts canaries batch.edges⟩ := by
  unfold Api.post
  cases hcheck : Wire.routeCheck batch with
  | some refusal => simp
  | none =>
    by_cases hseen : batch.batchId ∈ api.repo.batches
    · simp [ingestBatch, hseen]
    · simp [ingestBatch, hseen, countCanaryContacts_eq]

/-- **Ingestion**: the requests merge the fresh batches that the route lets through, and the
    counter has their contacts. -/
theorem foldl_post_eq (canaries : CanarySet) (api : Api) (posts : List IngestBatch) :
    posts.foldl (Api.post canaries) api =
      ⟨(fresh api.repo.batches (routed posts)).foldl mergeBatch api.repo,
        api.canaryContacts + contacts canaries
          ((fresh api.repo.batches (routed posts)).flatMap IngestBatch.edges)⟩ := by
  induction posts generalizing api with
  | nil => rfl
  | cons b bs ih =>
    rw [List.foldl_cons, ih, post_eq]
    by_cases hrefused : (Wire.routeCheck b).isSome = true
    · have hrouted : routed (b :: bs) = routed bs := by
        unfold routed
        rw [List.filter_cons, if_neg]
        simpa [Option.isSome_iff_ne_none] using hrefused
      rw [if_pos (.inl hrefused), hrouted]
    · have hrouted : routed (b :: bs) = b :: routed bs := by
        unfold routed
        rw [List.filter_cons, if_pos]
        simpa [Option.isSome_iff_ne_none] using hrefused
      rw [hrouted]
      by_cases hseen : b.batchId ∈ api.repo.batches
      · rw [if_pos (.inr hseen), fresh, if_pos hseen]
      · rw [if_neg (by simp [hrefused, hseen]), fresh, if_neg hseen]
        simp only [mergeBatch_batches, List.foldl_cons, List.flatMap_cons, contacts,
          List.map_append, List.sum_append]
        rw [Nat.add_assoc]

/-! ### Attempts in an answer -/

/-- The attempts of a bucket, when its key is of interest. -/
def Bucket.attemptsAt (p : EdgeKey → Prop) [DecidablePred p] (k : EdgeKey) (b : Bucket) : Nat :=
  if p k then b.connectionCount + b.failedConnectionCount.getD 0 else 0

theorem Bucket.attemptsAt_add (p : EdgeKey → Prop) [DecidablePred p] (k : EdgeKey)
    (a b : Bucket) : (a + b).attemptsAt p k = a.attemptsAt p k + b.attemptsAt p k := by
  have hfailed : (a + b).failedConnectionCount.getD 0 =
      a.failedConnectionCount.getD 0 + b.failedConnectionCount.getD 0 := addMeasured_getD _ _
  have hcount : (a + b).connectionCount = a.connectionCount + b.connectionCount := rfl
  unfold attemptsAt
  split
  · omega
  · rfl

/-- Summed over an answer, the attempts under some keys are those of the buckets. -/
theorem sum_answerOf (p : EdgeKey → Prop) [DecidablePred p] (l : List (EdgeKey × Bucket)) :
    ((answerOf l).map (fun a => if p a.key then attempts a else 0)).sum =
      (l.map (fun e => e.2.attemptsAt p e.1)).sum := by
  unfold answerOf
  rw [((sortOn_perm _ _).map _).sum_eq, List.map_map]
  refine (Dict.sum_entries_sumInto (f := fun k b => Bucket.attemptsAt p k b)
    (Bucket.attemptsAt_add p) .empty l).trans ?_
  exact Nat.zero_add _

/-! ### Contacts among the findings -/

/-- The other rules find no contacts. -/
theorem filter_fired_canary (F : Floats) (thresholds : Thresholds) (targets : List String)
    (period : String) (observed : Bool) (edge : EdgeAggregate) (before : Option EdgeAggregate) :
    ((fired F thresholds targets period observed edge before).filter
      (fun f => f.1 = .canaryContact)).Perm (canaryRule targets edge) := by
  unfold fired
  refine ((sortOn_perm _ _).filter _).trans (List.Perm.of_eq ?_)
  have hcanary : (canaryRule targets edge).filter (fun f => f.1 = .canaryContact) =
      canaryRule targets edge := by
    unfold canaryRule
    split <;> simp
  have hnovelty : (noveltyRule period observed edge before).filter
      (fun f => f.1 = .canaryContact) = [] := by
    unfold noveltyRule
    split
    · split <;> simp
    · rfl
  have hfailure : (failureRule F thresholds period edge before).filter
      (fun f => f.1 = .canaryContact) = [] := by
    unfold failureRule
    split
    · split <;> simp
    · rfl
  have hsetup : (setupRule F thresholds period edge before).filter
      (fun f => f.1 = .canaryContact) = [] := by
    unfold setupRule
    split
    · split <;> simp
    · rfl
  rw [List.filter_append, List.filter_append, List.filter_append, hcanary, hnovelty, hfailure,
    hsetup]
  simp

/-- The attempts of an anomaly in the window. -/
def Anomalies.Anomaly.currentAttempts (a : Anomaly) : Nat :=
  a.currentConnectionCount + a.currentFailedConnectionCount.getD 0

/-- **Detection**: the attempts of the contacts found are those of the edges to a canary. -/
theorem sum_canaryContacts (F : Floats) (thresholds : Thresholds)
    (current baselineEdges : List EdgeAggregate) (targets : List String)
    (baseline : ResolvedWindow) :
    (((detect F thresholds current baselineEdges targets baseline).1.filter
        (fun a => a.type = .canaryContact)).map Anomaly.currentAttempts).sum =
      (current.map (fun e => if e.key.targetId ∈ targets then attempts e else 0)).sum := by
  unfold detect
  simp only [List.filter_flatMap, List.map_flatMap]
  rw [← ((sortOn_perm EdgeAggregate.key current).map _).sum_eq, List.flatMap, List.sum_flatten,
    List.map_map]
  congr 1
  apply List.map_congr_left
  intro edge _
  simp only [Function.comp_apply]
  by_cases hzero : attempts edge = 0
  · simp [hzero]
  · rw [if_neg hzero, List.filter_map, List.map_map]
    -- every anomaly of an edge carries the attempts of the edge
    have hattempts : ∀ before, (Anomaly.currentAttempts ∘ toAnomaly F edge before) =
        fun _ => attempts edge := fun _ => rfl
    rw [hattempts]
    have hcontacts := (filter_fired_canary F thresholds targets (periodText F baseline)
      (!(baselineByKey baselineEdges).entries.isEmpty) edge
      ((baselineByKey baselineEdges).get? edge.key)).map (fun _ => attempts edge)
    refine hcontacts.sum_eq.trans ?_
    unfold canaryRule
    split <;> simp

/-! ### Both paths on one history -/

/-- Every stored node is labelled with its name. -/
def Named (nodes : Dict String StoredNode) : Prop :=
  ∀ nid n, nodes.get? nid = some n → n.label = n.name

theorem named_ingestAll {repo : InMemoryRepository} (h : Named repo.nodes)
    (calls : List IngestBatch) : Named (repo.ingestAll calls).nodes := by
  induction calls generalizing repo with
  | nil => exact h
  | cons b bs ih =>
    exact ih (nodes_ingestBatch Named
      (fun _ c r f l h => forall_upsertNode h c r f l rfl (fun _ hn => hn)) h b)

/-- Every observation is counted by a query without filters whose window has its bucket. -/
theorem observed_eq_all {casefold : String → String} {window : ResolvedWindow}
    {bs : List IngestBatch}
    (h : ∀ e ∈ bs.flatMap IngestBatch.edges, window.contains (bucketStart e.lastSeen) = true) :
    observed casefold window {} bs = bs.flatMap IngestBatch.edges := by
  unfold observed
  rw [List.filter_eq_self]
  intro e he
  unfold EdgeObservation.inQuery
  rw [h e he]
  rfl

theorem mem_canaryTargets {casefold : String → String} {canaries : CanarySet} {reads : Reads}
    {window : ResolvedWindow} {filters : EffectiveFilters} {nid : String} :
    nid ∈ canaryTargets casefold canaries reads window filters ↔
      nid ∈ endpoints (currentEdges casefold reads window filters) ∧
        ∃ n, reads.nodes.nodes.get? nid = some n ∧
          canaries.matches n.namespace n.kind.name n.name = true := by
  unfold canaryTargets storedNodes nodesFor
  simp only [List.mem_map, List.mem_filter, List.mem_filterMap, List.mem_dedup,
    Option.map_eq_some_iff]
  constructor
  · intro ⟨entry, ⟨⟨nid', hend, n, hget, hentry⟩, hmatch⟩, hnid⟩
    subst hentry hnid
    exact ⟨hend, n, hget, hmatch⟩
  · intro ⟨hend, n, hget, hmatch⟩
    exact ⟨(nid, n), ⟨⟨nid, hend, n, hget, rfl⟩, hmatch⟩, rfl⟩

section history
variable (casefold : String → String) (canaries : CanarySet) (clusterId : String)
  (window : ResolvedWindow) {bs : List IngestBatch}
  (hagree : NodeRefsAgree (bs.flatMap IngestBatch.nodeRefs))
  (hwindow : ∀ e ∈ bs.flatMap IngestBatch.edges, window.contains (bucketStart e.lastSeen) = true)

/-- The store after merging the batches, at all three calls. -/
def mergedReads (clusterId : String) (bs : List IngestBatch) : Reads :=
  .same (bs.foldl mergeBatch (.new clusterId))

include hagree hwindow in
/-- The edges of the window are the answer to all observations. -/
theorem currentEdges_merged :
    currentEdges casefold (mergedReads clusterId bs) window {} =
      answerOf ((bs.flatMap IngestBatch.edges).map EdgeObservation.counted) := by
  rw [← observed_eq_all hwindow]
  exact queryEdges_foldl_mergeBatch casefold clusterId window {} hagree

include hagree hwindow in
/-- A stored target matches a selector exactly when the reported one does. -/
theorem mem_canaryTargets_iff_matchesRef (hnamed : Named (mergedReads clusterId bs).nodes.nodes)
    {e : EdgeObservation} (he : e ∈ bs.flatMap IngestBatch.edges) :
    e.target.id ∈ canaryTargets casefold canaries (mergedReads clusterId bs) window {} ↔
      canaries.matchesRef e.target = true := by
  have hdesc : Describes (mergedReads clusterId bs).nodes.nodes
      ([] ++ bs.flatMap IngestBatch.nodeRefs) :=
    Describes.foldl_mergeBatch (.new clusterId) Describes.empty bs
  rw [List.nil_append] at hdesc
  obtain ⟨n, hget, hview⟩ := hdesc.view_eq hagree (mem_nodeRefs he).2
  -- the stored node has the namespace, the kind and the name of the report
  have hfields : canaries.matches n.namespace n.kind.name n.name = canaries.matchesRef e.target := by
    have hname : n.name = e.target.name :=
      (hnamed _ n hget).symm.trans (congrArg NodeView.label hview)
    have hkind : n.kind = e.target.kind := congrArg NodeView.kind hview
    have hns : n.namespace = e.target.namespace := congrArg NodeView.namespace hview
    unfold CanarySet.matchesRef
    rw [hname, hkind, hns]
  have hend : e.target.id ∈
      endpoints (currentEdges casefold (mergedReads clusterId bs) window {}) := by
    have hkey : e.key ∈ (currentEdges casefold (mergedReads clusterId bs) window {}).map
        EdgeAggregate.key := by
      rw [currentEdges_merged casefold clusterId window hagree hwindow, mem_answerOf_keys,
        List.map_map]
      exact List.mem_map_of_mem he
    obtain ⟨a, ha, hak⟩ := List.mem_map.mp hkey
    exact mem_endpoints.mpr ⟨a, ha, .inr (by rw [hak]; rfl)⟩
  rw [mem_canaryTargets, ← hfields]
  constructor
  · intro ⟨_, n', hget', hmatch⟩
    have hsame : some n' = some n := hget'.symm.trans hget
    rw [← Option.some.inj hsame]
    exact hmatch
  · intro hmatch
    exact ⟨hend, n, hget, hmatch⟩

include hagree hwindow in
/-- The contacts of the observations are those the rules find. -/
theorem contacts_eq_findings (hnamed : Named (mergedReads clusterId bs).nodes.nodes) (F : Floats)
    (settings : Settings) :
    contacts canaries (bs.flatMap IngestBatch.edges) =
      (((findings F settings casefold canaries (mergedReads clusterId bs) window {}).1.filter
        (fun a => a.type = .canaryContact)).map Anomaly.currentAttempts).sum := by
  unfold findings
  rw [sum_canaryContacts, currentEdges_merged casefold clusterId window hagree hwindow]
  generalize htargets : canaryTargets casefold canaries (mergedReads clusterId bs) window {} =
    targets
  refine Eq.trans ?_ (sum_answerOf (fun k => k.targetId ∈ targets) _).symm
  rw [contacts, List.map_map]
  congr 1
  apply List.map_congr_left
  intro e he
  have htarget := mem_canaryTargets_iff_matchesRef casefold canaries clusterId window hagree
    hwindow hnamed he
  rw [htargets] at htarget
  show (if canaries.matchesRef e.target then e.attempts else 0) =
    if e.target.id ∈ targets then e.attempts else 0
  by_cases hmatch : canaries.matchesRef e.target = true
  · rw [if_pos hmatch, if_pos (htarget.mpr hmatch)]
  · rw [if_neg hmatch, if_neg (fun h => hmatch (htarget.mp h))]

/-- Every observation has its bucket in the store. -/
theorem bucketKey_mem_merged {e : EdgeObservation} (he : e ∈ bs.flatMap IngestBatch.edges) :
    e.bucketKey ∈ (bs.foldl mergeBatch (.new clusterId)).buckets.keys := by
  by_contra habsent
  have htotal := foldl_mergeBatch_total (.new clusterId) bs e.bucketKey
  rw [show ((bs.foldl mergeBatch (.new clusterId)).buckets).total e.bucketKey = 0 from
    Dict.get?_eq_none_iff.mpr habsent] at htotal
  have hzero : keyedSum (bs.flatMap IngestBatch.contributions) e.bucketKey = 0 := by
    rw [htotal]
    exact (zero_add _).symm
  rw [keyedSum_eq_zero_iff] at hzero
  obtain ⟨b, hb, heb⟩ := List.mem_flatMap.mp he
  exact hzero (List.mem_map.mpr ⟨(e.bucketKey, Bucket.ofEdge e),
    List.mem_flatMap.mpr ⟨b, hb, List.mem_map_of_mem heb⟩, rfl⟩)

end history

/-- A response that is not cut has all findings. -/
theorem anomalies_of_not_truncated {F : Floats} {settings : Settings} {casefold : String → String}
    {canaries : CanarySet} {reads : Reads} {window : ResolvedWindow} {filters : EffectiveFilters}
    {generatedAt : Datetime}
    (h : (evaluateAnomalies F settings casefold canaries reads window filters
      generatedAt).summary.truncated = false) :
    (evaluateAnomalies F settings casefold canaries reads window filters generatedAt).anomalies =
      (findings F settings casefold canaries reads window filters).1 := by
  have hlen := of_decide_eq_false h
  rw [List.length_take] at hlen
  exact List.take_of_length_le (by omega)

/-- **The two canary paths agree**: after any sequence of accepted requests, replays included,
    the counter is the sum of the attempts of the contacts that an evaluation over every bucket
    finds, if it is not cut. -/
theorem canary_paths_agree (F : Floats) (settings : Settings) (casefold : String → String)
    (canaries : CanarySet) (clusterId : String) (posts : List IngestBatch)
    (hagree : NodeRefsAgree (posts.flatMap IngestBatch.nodeRefs)) (window : ResolvedWindow)
    (hwindow : ∀ key ∈ (postAll canaries clusterId posts).repo.buckets.keys,
      window.contains key.bucketStart = true)
    (generatedAt : Datetime)
    (hwhole : (evaluateAnomalies F settings casefold canaries
      (.same (postAll canaries clusterId posts).repo) window {} generatedAt).summary.truncated =
        false) :
    (postAll canaries clusterId posts).canaryContacts =
      (((evaluateAnomalies F settings casefold canaries
          (.same (postAll canaries clusterId posts).repo) window {} generatedAt).anomalies.filter
        (fun a => a.type = .canaryContact)).map Anomaly.currentAttempts).sum := by
  rw [anomalies_of_not_truncated hwhole]
  have hpost : postAll canaries clusterId posts =
      ⟨(fresh [] (routed posts)).foldl mergeBatch (.new clusterId), 0 + contacts canaries
        ((fresh [] (routed posts)).flatMap IngestBatch.edges)⟩ :=
    foldl_post_eq canaries { repo := .new clusterId } posts
  rw [hpost] at hwindow ⊢
  have hnamed : Named ((fresh [] (routed posts)).foldl mergeBatch (.new clusterId)).nodes := by
    have hnew : Named (InMemoryRepository.new clusterId).nodes := fun nid n hn => by cases hn
    have hall := named_ingestAll hnew (routed posts)
    rw [ingestAll_eq_foldl_mergeBatch] at hall
    exact hall
  -- what is merged was posted
  have hsub : ∀ r ∈ (fresh [] (routed posts)).flatMap IngestBatch.nodeRefs,
      r ∈ posts.flatMap IngestBatch.nodeRefs := by
    intro r hr
    obtain ⟨b, hb, hrb⟩ := List.mem_flatMap.mp hr
    exact List.mem_flatMap.mpr ⟨b, (List.mem_filter.mp (fresh_subset hb)).1, hrb⟩
  rw [Nat.zero_add]
  apply contacts_eq_findings casefold canaries clusterId window _ _ hnamed F settings
  · exact fun r hr r' hr' => hagree r (hsub r hr) r' (hsub r' hr')
  · intro e he
    exact hwindow e.bucketKey (bucketKey_mem_merged clusterId he)

/-- `db` is a canary. Three attempts with failures not measured, four with two failures, and a
    replay of the first batch are nine attempts on both paths. -/
theorem canary_paths_agree_replayed :
    (postAll ⟨[("shop", none, "db")]⟩ "c" [sampleBatchA, sampleBatchB, sampleBatchA]).canaryContacts
      = 9 ∧
    (((evaluateAnomalies ⟨id, fun _ => "", fun _ => "", fun _ => ""⟩ {} id
        ⟨[("shop", none, "db")]⟩ (.same (postAll ⟨[("shop", none, "db")]⟩ "c"
          [sampleBatchA, sampleBatchB, sampleBatchA]).repo) ⟨0, 60000000⟩ {} 0).anomalies.filter
      (fun a => a.type = .canaryContact)).map Anomaly.currentAttempts).sum = 9 := by
  have hcounter : (postAll ⟨[("shop", none, "db")]⟩ "c"
      [sampleBatchA, sampleBatchB, sampleBatchA]).canaryContacts = 9 := by decide +kernel
  refine ⟨hcounter, ?_⟩
  rw [← hcounter]
  exact (canary_paths_agree ⟨id, fun _ => "", fun _ => "", fun _ => ""⟩ {} id
    ⟨[("shop", none, "db")]⟩ "c" [sampleBatchA, sampleBatchB, sampleBatchA] (by decide)
    ⟨0, 60000000⟩ (by decide +kernel) 0 (by decide +kernel)).symm

end TopologyVisualizer.Backend
