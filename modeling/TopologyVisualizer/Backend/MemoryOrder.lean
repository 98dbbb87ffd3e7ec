import TopologyVisualizer.Backend.BucketSum

/-! # Retry-Safe, Order-Independent Ingestion

    What a run of `ingest_batch` calls leaves in the in-memory store, and
    what `query_edges` then answers, as a function of the set of batches
    alone:

    * the batch-id gate reduces a run to its first occurrences (`fresh`);
    * the buckets hold keyed sums of the observations (`foldl_mergeBatch_total`);
    * the nodes hold what the reports agree on (`Describes`);
    * a query regroups the bucket sums by edge key, so its answer is
      `answerOf` the observations in the window, and `answerOf` forgets the
      order of its argument.
-/

namespace TopologyVisualizer.Backend

open InMemoryRepository

/-! ### The gate -/

/-- The calls the gate lets through: first occurrences of ids not seen before. -/
def fresh (seen : List String) : List IngestBatch → List IngestBatch
  | [] => []
  | b :: bs =>
    if b.batchId ∈ seen then fresh seen bs else b :: fresh (b.batchId :: seen) bs

theorem fresh_subset {seen : List String} {calls : List IngestBatch} {b : IngestBatch}
    (h : b ∈ fresh seen calls) : b ∈ calls := by
  induction calls generalizing seen with
  | nil => exact h
  | cons c cs ih =>
    unfold fresh at h
    split at h
    · exact List.mem_cons_of_mem _ (ih h)
    · rcases List.mem_cons.mp h with rfl | h
      · exact List.mem_cons_self
      · exact List.mem_cons_of_mem _ (ih h)

theorem fresh_id_not_seen {seen : List String} {calls : List IngestBatch} {b : IngestBatch}
    (h : b ∈ fresh seen calls) : b.batchId ∉ seen := by
  induction calls generalizing seen with
  | nil => cases h
  | cons c cs ih =>
    unfold fresh at h
    split at h
    · exact ih h
    · next hc =>
      rcases List.mem_cons.mp h with rfl | h
      · exact hc
      · exact fun hs => ih h (List.mem_cons_of_mem _ hs)

theorem fresh_ids_nodup (seen : List String) (calls : List IngestBatch) :
    ((fresh seen calls).map IngestBatch.batchId).Nodup := by
  induction calls generalizing seen with
  | nil => exact List.nodup_nil
  | cons c cs ih =>
    unfold fresh
    split
    · exact ih seen
    · rw [List.map_cons, List.nodup_cons]
      refine ⟨?_, ih _⟩
      intro hmem
      obtain ⟨b, hb, hid⟩ := List.mem_map.mp hmem
      exact fresh_id_not_seen hb (by rw [hid]; exact List.mem_cons_self)

/-- No id is lost: a call that is not let through repeats an earlier id. -/
theorem fresh_covers (seen : List String) {calls : List IngestBatch} {b : IngestBatch}
    (h : b ∈ calls) :
    b.batchId ∈ seen ∨ ∃ b' ∈ fresh seen calls, b'.batchId = b.batchId := by
  induction calls generalizing seen with
  | nil => cases h
  | cons c cs ih =>
    unfold fresh
    rcases List.mem_cons.mp h with rfl | h
    · split
      · next hc => exact .inl hc
      · exact .inr ⟨b, List.mem_cons_self, rfl⟩
    · split
      · exact ih seen h
      · rcases ih (c.batchId :: seen) h with hs | ⟨b', hb', hid⟩
        · rcases List.mem_cons.mp hs with hs | hs
          · exact .inr ⟨c, List.mem_cons_self, hs.symm⟩
          · exact .inl hs
        · exact .inr ⟨b', List.mem_cons_of_mem _ hb', hid⟩

/-- When equal ids mean equal batches, what the gate lets through is any listing of the
    distinct batches, up to order. -/
theorem fresh_perm {calls once : List IngestBatch}
    (hsame : ∀ b ∈ calls, ∀ b' ∈ calls, b.batchId = b'.batchId → b = b')
    (honce : (once.map IngestBatch.batchId).Nodup) (hmem : ∀ b, b ∈ once ↔ b ∈ calls) :
    (fresh [] calls).Perm once := by
  refine (List.perm_ext_iff_of_nodup (fresh_ids_nodup [] calls).of_map honce.of_map).mpr ?_
  intro b
  rw [hmem]
  constructor
  · exact fresh_subset
  · intro hb
    rcases fresh_covers [] hb with hs | ⟨b', hb', hid⟩
    · cases hs
    · rw [← hsame b' (fresh_subset hb') b hb hid]
      exact hb'

/-! ### What the merge loop does to each field -/

/-- What a batch files in the buckets. -/
def IngestBatch.contributions (batch : IngestBatch) : List (BucketKey × Bucket) :=
  batch.edges.map (fun e => (e.bucketKey, Bucket.ofEdge e))

/-- Both endpoints of every edge, in the order they are upserted. -/
def IngestBatch.nodeRefs (batch : IngestBatch) : List NodeRef :=
  batch.edges.flatMap (fun e => [e.source, e.target])

/-- The ingest loop changes the fields independently. -/
theorem foldl_ingestEdge (repo : InMemoryRepository) (edges : List EdgeObservation) :
    (edges.foldl ingestEdge repo).batches = repo.batches ∧
    (edges.foldl ingestEdge repo).clusterId = repo.clusterId ∧
    (edges.foldl ingestEdge repo).buckets =
      repo.buckets.sumInto (edges.map (fun e => (e.bucketKey, Bucket.ofEdge e))) := by
  induction edges generalizing repo with
  | nil => exact ⟨rfl, rfl, rfl⟩
  | cons e es ih =>
    obtain ⟨h₁, h₂, h₃⟩ := ih (repo.ingestEdge e)
    refine ⟨h₁, h₂, ?_⟩
    rw [List.foldl_cons, h₃]
    simp only [ingestEdge, mergeEdge_eq_addAt]
    rfl

@[simp] theorem mergeBatch_batches (repo : InMemoryRepository) (batch : IngestBatch) :
    (repo.mergeBatch batch).batches = batch.batchId :: repo.batches :=
  (foldl_ingestEdge _ batch.edges).1

@[simp] theorem mergeBatch_clusterId (repo : InMemoryRepository) (batch : IngestBatch) :
    (repo.mergeBatch batch).clusterId = repo.clusterId :=
  (foldl_ingestEdge _ batch.edges).2.1

theorem mergeBatch_buckets (repo : InMemoryRepository) (batch : IngestBatch) :
    (repo.mergeBatch batch).buckets = repo.buckets.sumInto batch.contributions :=
  (foldl_ingestEdge _ batch.edges).2.2

/-- The gate reduces a run of calls to merging its fresh batches, each once. -/
theorem ingestAll_eq_foldl_mergeBatch (repo : InMemoryRepository) (calls : List IngestBatch) :
    repo.ingestAll calls = (fresh repo.batches calls).foldl mergeBatch repo := by
  induction calls generalizing repo with
  | nil => rfl
  | cons b bs ih =>
    have hstep : repo.ingestAll (b :: bs) = (repo.ingestBatch b).1.ingestAll bs := rfl
    rw [hstep, ih]
    by_cases hb : b.batchId ∈ repo.batches
    · simp only [ingestBatch, fresh, if_pos hb]
    · simp only [ingestBatch, fresh, if_neg hb, mergeBatch_batches, List.foldl_cons]

theorem foldl_mergeBatch_total (repo : InMemoryRepository) (bs : List IngestBatch)
    (k : BucketKey) :
    ((bs.foldl mergeBatch repo).buckets).total k =
      repo.buckets.total k + keyedSum (bs.flatMap IngestBatch.contributions) k := by
  induction bs generalizing repo with
  | nil => simp
  | cons b bs ih =>
    rw [List.foldl_cons, ih, mergeBatch_buckets, Dict.total_sumInto, List.flatMap_cons,
      keyedSum_append, add_assoc]

/-! ### What is known of the nodes -/

/-- Reports sharing an id agree on what filters and readers see of a node. -/
def NodeRefsAgree (refs : List NodeRef) : Prop :=
  ∀ r ∈ refs, ∀ r' ∈ refs, r.id = r'.id →
    r.kind = r'.kind ∧ r.namespace = r'.namespace ∧ r.name = r'.name

instance (refs : List NodeRef) : Decidable (NodeRefsAgree refs) :=
  inferInstanceAs (Decidable (∀ r ∈ refs, ∀ r' ∈ refs, r.id = r'.id →
    r.kind = r'.kind ∧ r.namespace = r'.namespace ∧ r.name = r'.name))

/-- `nodes` holds exactly the ids of `refs`, each as some report of it described it. -/
structure Describes (nodes : Dict String StoredNode) (refs : List NodeRef) : Prop where
  known : ∀ nid, nid ∈ nodes.keys ↔ ∃ r ∈ refs, r.id = nid
  reported : ∀ nid n, nodes.get? nid = some n → ∃ r ∈ refs, r.id = nid ∧ n.view = r.view

theorem Describes.empty : Describes .empty [] where
  known := by simp [Dict.keys, Dict.empty]
  reported := by simp

theorem Describes.upsertNode {nodes : Dict String StoredNode} {refs : List NodeRef}
    (h : Describes nodes refs) (clusterId : String) (ref : NodeRef) (f l : Datetime) :
    Describes (upsertNode nodes clusterId ref f l) (refs ++ [ref]) := by
  have hkeys : ∀ n, ∀ nid, nid ∈ (nodes.set ref.id n).keys ↔ ∃ r ∈ refs ++ [ref], r.id = nid := by
    intro n nid
    rw [Dict.mem_keys_set, h.known]
    simp [or_comm, or_and_right, exists_or, eq_comm]
  have hkept : ∀ nid n, nodes.get? nid = some n →
      ∃ r ∈ refs ++ [ref], r.id = nid ∧ n.view = r.view := by
    intro nid n hn
    obtain ⟨r, hr, hrid⟩ := h.reported nid n hn
    exact ⟨r, List.mem_append_left _ hr, hrid⟩
  unfold InMemoryRepository.upsertNode
  cases hget : nodes.get? ref.id with
  | none => exact ⟨hkeys _, Dict.forall_set hkept ⟨ref, by simp, rfl, rfl⟩⟩
  | some existing =>
    -- the interval is widened, the view stays the existing one
    exact ⟨hkeys _, Dict.forall_set hkept (hkept ref.id existing hget)⟩

theorem Describes.foldl_ingestEdge (repo : InMemoryRepository) {refs : List NodeRef}
    (h : Describes repo.nodes refs) (edges : List EdgeObservation) :
    Describes (edges.foldl ingestEdge repo).nodes
      (refs ++ edges.flatMap (fun e => [e.source, e.target])) := by
  induction edges generalizing repo refs with
  | nil => simpa using h
  | cons e es ih =>
    have hstep : Describes (repo.ingestEdge e).nodes (refs ++ [e.source] ++ [e.target]) :=
      (h.upsertNode _ _ _ _).upsertNode _ _ _ _
    simpa using ih _ hstep

theorem Describes.foldl_mergeBatch (repo : InMemoryRepository) {refs : List NodeRef}
    (h : Describes repo.nodes refs) (bs : List IngestBatch) :
    Describes (bs.foldl mergeBatch repo).nodes (refs ++ bs.flatMap IngestBatch.nodeRefs) := by
  induction bs generalizing repo refs with
  | nil => simpa using h
  | cons b bs ih =>
    have hstep : Describes (repo.mergeBatch b).nodes (refs ++ b.nodeRefs) :=
      Describes.foldl_ingestEdge { repo with batches := b.batchId :: repo.batches }
        h b.edges
    simpa using ih _ hstep

/-- When the reports agree, a stored node looks like every report of it. -/
theorem Describes.view_eq {nodes : Dict String StoredNode} {refs : List NodeRef}
    (h : Describes nodes refs) (hagree : NodeRefsAgree refs) {r : NodeRef} (hr : r ∈ refs) :
    ∃ n, nodes.get? r.id = some n ∧ n.view = r.view := by
  obtain ⟨n, hn⟩ := Dict.mem_keys_iff.mp ((h.known r.id).mpr ⟨r, hr, rfl⟩)
  obtain ⟨r', hr', hid, hview⟩ := h.reported _ _ hn
  obtain ⟨hk, hns, hname⟩ := hagree r' hr' r hr hid
  refine ⟨n, hn, hview.trans ?_⟩
  simp only [NodeRef.view, hid, hk, hns, hname]

/-! ### Answers -/

/-- The answer a query makes of the buckets it accepted: summed per key, sorted by key. -/
def answerOf (accepted : List (EdgeKey × Bucket)) : List EdgeAggregate :=
  sortOn EdgeAggregate.key ((Dict.empty.sumInto accepted).entries.map toAggregate)

theorem answerOf_unsorted_keys (accepted : List (EdgeKey × Bucket)) :
    (((Dict.empty.sumInto accepted).entries.map toAggregate).map EdgeAggregate.key).Nodup := by
  rw [List.map_map]
  exact (Dict.empty.sumInto accepted).nodup

/-- Only the keyed sums of the accepted buckets matter to the answer. -/
theorem answerOf_congr {l l' : List (EdgeKey × Bucket)} (h : ∀ k, keyedSum l k = keyedSum l' k) :
    answerOf l = answerOf l' := by
  refine sortOn_eq_of_perm (List.Perm.map _ ?_) (answerOf_unsorted_keys l)
  apply Dict.perm_of_get?_eq
  apply Dict.get?_eq_of_total_eq
  intro k
  rw [Dict.total_sumInto, Dict.total_sumInto, h]

theorem answerOf_perm {l l' : List (EdgeKey × Bucket)} (h : l.Perm l') :
    answerOf l = answerOf l' :=
  answerOf_congr (keyedSum_perm h)

/-- An answer lists its keys in strictly increasing order. -/
theorem answerOf_sorted (l : List (EdgeKey × Bucket)) :
    ((answerOf l).map EdgeAggregate.key).Pairwise (· < ·) :=
  sortOn_strict (answerOf_unsorted_keys l)

theorem mem_answerOf {l : List (EdgeKey × Bucket)} {a : EdgeAggregate} :
    a ∈ answerOf l ↔
      ∃ v : Bucket, keyedSum l a.key = (v : WithZero Bucket) ∧ a = toAggregate (a.key, v) := by
  have hget : ∀ k, (Dict.empty.sumInto l).total k = keyedSum l k := by
    intro k
    rw [Dict.total_sumInto, Dict.total_empty, zero_add]
  unfold answerOf
  rw [mem_sortOn, List.mem_map]
  constructor
  · rintro ⟨⟨k, v⟩, hmem, rfl⟩
    exact ⟨v, (hget k).symm.trans (Dict.get?_eq_some_iff.mpr hmem), rfl⟩
  · rintro ⟨v, hv, ha⟩
    exact ⟨(a.key, v), Dict.get?_eq_some_iff.mp ((hget a.key).trans hv), ha.symm⟩

/-- The keys of an answer are the keys of the accepted buckets. -/
theorem mem_answerOf_keys {l : List (EdgeKey × Bucket)} {k : EdgeKey} :
    k ∈ (answerOf l).map EdgeAggregate.key ↔ k ∈ l.map Prod.fst := by
  constructor
  · rintro hk
    obtain ⟨a, ha, rfl⟩ := List.mem_map.mp hk
    obtain ⟨v, hv, -⟩ := mem_answerOf.mp ha
    by_contra hnot
    rw [keyedSum_eq_zero_iff.mpr hnot] at hv
    exact WithZero.coe_ne_zero hv.symm
  · intro hk
    have hne : keyedSum l k ≠ 0 := fun h0 => keyedSum_eq_zero_iff.mp h0 hk
    obtain ⟨v, hv⟩ := WithZero.ne_zero_iff_exists.mp hne
    exact List.mem_map.mpr ⟨toAggregate (k, v), mem_answerOf.mpr ⟨v, hv.symm, rfl⟩, rfl⟩

/-- The edge key a stored bucket is summed under, if the query accepts it. -/
def InMemoryRepository.accepts (casefold : String → String) (repo : InMemoryRepository)
    (window : ResolvedWindow) (filters : EdgeFilters) (key : BucketKey) : Option EdgeKey :=
  if window.contains key.bucketStart &&
      repo.passes casefold key.edge.sourceId key.edge.targetId filters
  then some key.edge else none

/-- **A query** regroups the stored buckets by edge key. -/
theorem queryEdges_eq_answerOf (casefold : String → String) (repo : InMemoryRepository)
    (window : ResolvedWindow) (filters : EdgeFilters) :
    repo.queryEdges casefold window filters =
      answerOf (regroup (repo.accepts casefold window filters) repo.buckets.entries) := by
  have hloop : ∀ (l : List (BucketKey × Bucket)) (summed : Dict EdgeKey Bucket),
      l.foldl (queryStep casefold repo window filters) summed =
        summed.sumInto (regroup (repo.accepts casefold window filters) l) := by
    intro l
    induction l with
    | nil => intro summed; rfl
    | cons e l ih =>
      intro summed
      rw [List.foldl_cons, ih]
      unfold queryStep regroup
      rw [List.filterMap_cons]
      cases hw : window.contains e.1.bucketStart <;>
        cases hp : repo.passes casefold e.1.edge.sourceId e.1.edge.targetId filters <;>
          simp [accepts, hw, hp, accumulate_eq_addAt, Dict.sumInto]
  unfold queryEdges answerOf
  rw [hloop]

/-! ### Queries over ingested batches -/

/-- Whether a query counts an observation. -/
def EdgeObservation.inQuery (casefold : String → String) (window : ResolvedWindow)
    (filters : EdgeFilters) (e : EdgeObservation) : Bool :=
  window.contains (bucketStart e.lastSeen) &&
    viewsPass casefold e.source.view e.target.view filters

/-- The observations of the batches that a query counts. -/
def observed (casefold : String → String) (window : ResolvedWindow) (filters : EdgeFilters)
    (bs : List IngestBatch) : List EdgeObservation :=
  (bs.flatMap IngestBatch.edges).filter (EdgeObservation.inQuery casefold window filters)

/-- What an observation adds to an answer. -/
def EdgeObservation.counted (e : EdgeObservation) : EdgeKey × Bucket := (e.key, Bucket.ofEdge e)

theorem mem_nodeRefs {bs : List IngestBatch} {e : EdgeObservation}
    (he : e ∈ bs.flatMap IngestBatch.edges) :
    e.source ∈ bs.flatMap IngestBatch.nodeRefs ∧ e.target ∈ bs.flatMap IngestBatch.nodeRefs := by
  obtain ⟨b, hb, heb⟩ := List.mem_flatMap.mp he
  constructor
  · exact List.mem_flatMap.mpr ⟨b, hb, List.mem_flatMap.mpr ⟨e, heb, by simp⟩⟩
  · exact List.mem_flatMap.mpr ⟨b, hb, List.mem_flatMap.mpr ⟨e, heb, by simp⟩⟩

/-- The stored nodes pass a filter exactly when the reported ones do. -/
theorem passes_eq_viewsPass {repo : InMemoryRepository} {refs : List NodeRef}
    (hdesc : Describes repo.nodes refs) (hagree : NodeRefsAgree refs) {s t : NodeRef}
    (hs : s ∈ refs) (ht : t ∈ refs) (casefold : String → String) (filters : EdgeFilters) :
    repo.passes casefold s.id t.id filters = viewsPass casefold s.view t.view filters := by
  obtain ⟨n, hn, hnv⟩ := hdesc.view_eq hagree hs
  obtain ⟨m, hm, hmv⟩ := hdesc.view_eq hagree ht
  simp only [passes, hn, hm, hnv, hmv]

/-- **The answer** after merging batches is the answer to their observations. -/
theorem queryEdges_foldl_mergeBatch (casefold : String → String) (clusterId : String)
    (window : ResolvedWindow) (filters : EdgeFilters) {bs : List IngestBatch}
    (hagree : NodeRefsAgree (bs.flatMap IngestBatch.nodeRefs)) :
    (bs.foldl mergeBatch (.new clusterId)).queryEdges casefold window filters =
      answerOf ((observed casefold window filters bs).map EdgeObservation.counted) := by
  set repo := bs.foldl mergeBatch (.new clusterId) with hrepo
  have hdesc : Describes repo.nodes ([] ++ bs.flatMap IngestBatch.nodeRefs) :=
    Describes.foldl_mergeBatch (.new clusterId) Describes.empty bs
  rw [List.nil_append] at hdesc
  rw [queryEdges_eq_answerOf]
  apply answerOf_congr
  intro k
  -- the stored entries and the ingested contributions have the same sums per bucket
  have hfine : ∀ bk, keyedSum repo.buckets.entries bk =
      keyedSum (bs.flatMap IngestBatch.contributions) bk := by
    intro bk
    rw [Dict.keyedSum_entries, hrepo, foldl_mergeBatch_total]
    exact zero_add _
  rw [keyedSum_regroup _ hfine]
  congr 1
  -- and the query accepts a contribution when it counts the observation
  have hedges : bs.flatMap IngestBatch.contributions =
      (bs.flatMap IngestBatch.edges).map (fun e => (e.bucketKey, Bucket.ofEdge e)) := by
    rw [List.map_flatMap]; rfl
  rw [hedges, regroup, List.filterMap_map, observed, ← List.filterMap_eq_map,
    ← List.filterMap_eq_filter, List.filterMap_filterMap]
  apply List.filterMap_congr
  intro e he
  obtain ⟨hs, ht⟩ := mem_nodeRefs he
  have hpass := passes_eq_viewsPass hdesc hagree hs ht casefold filters
  have haccept : repo.accepts casefold window filters e.bucketKey =
      if e.inQuery casefold window filters then some e.key else none := by
    unfold InMemoryRepository.accepts EdgeObservation.inQuery
    rw [← hpass]; rfl
  simp only [Function.comp_apply, haccept, Option.guard]
  by_cases hq : e.inQuery casefold window filters = true <;> simp [hq, EdgeObservation.counted]

/-- The fields of an aggregate other than its key. -/
def EdgeAggregate.bucket (a : EdgeAggregate) : Bucket where
  connectionCount := a.connectionCount
  failedConnectionCount := a.failedConnectionCount
  connectLatencyCount := a.connectLatencyCount
  connectLatencySumUs := a.connectLatencySumUs
  bytesSent := a.bytesSent
  bytesReceived := a.bytesReceived
  firstSeen := a.firstSeen
  lastSeen := a.lastSeen

/-- `a` is the aggregate of the observations `es` of one edge: its counts are their sums, a
    nullable one null exactly when every contribution is, its timestamps the extreme ones. -/
def EdgeAggregate.Sums (a : EdgeAggregate) (es : List EdgeObservation) : Prop :=
  a.bucket.IsSum (es.map Bucket.ofEdge)

/-- Each aggregate of an answer sums the counted observations of its key. -/
theorem answerOf_sums {es : List EdgeObservation} {a : EdgeAggregate}
    (ha : a ∈ answerOf (es.map EdgeObservation.counted)) :
    a.Sums (es.filter (fun e => e.key = a.key)) := by
  obtain ⟨v, hv, hav⟩ := mem_answerOf.mp ha
  have hbucket : a.bucket = v := by rw [hav]; rfl
  have hsum := isSum_of_keyedSum_eq hv
  rw [List.filter_map, List.map_map] at hsum
  rw [EdgeAggregate.Sums, hbucket]
  exact hsum

/-- **Retry-safe, order-independent ingestion**: after any run of `ingest_batch` calls, with
    replays of equal content anywhere in it, a query answers what it answers when the
    distinct batches are ingested once each, in any order. -/
theorem queryEdges_ingestAll_eq_once (casefold : String → String) (clusterId : String)
    (calls once : List IngestBatch)
    (hreplay : ∀ b ∈ calls, ∀ b' ∈ calls, b.batchId = b'.batchId → b = b')
    (honce : (once.map IngestBatch.batchId).Nodup) (hdistinct : ∀ b, b ∈ once ↔ b ∈ calls)
    (hagree : NodeRefsAgree (calls.flatMap IngestBatch.nodeRefs))
    (window : ResolvedWindow) (filters : EdgeFilters) :
    let answer := ((InMemoryRepository.new clusterId).ingestAll calls).queryEdges
      casefold window filters
    answer = ((InMemoryRepository.new clusterId).ingestAll once).queryEdges
      casefold window filters ∧
    (answer.map EdgeAggregate.key).Pairwise (· < ·) ∧
    (∀ k, k ∈ answer.map EdgeAggregate.key ↔
      ∃ e ∈ observed casefold window filters once, e.key = k) ∧
    (∀ a ∈ answer, a.Sums
      ((observed casefold window filters once).filter (fun e => e.key = a.key))) := by
  -- both runs merge a listing of the distinct batches
  have hanswer : ∀ run : List IngestBatch, (fresh [] run).Perm once →
      ((InMemoryRepository.new clusterId).ingestAll run).queryEdges casefold window filters =
        answerOf ((observed casefold window filters once).map EdgeObservation.counted) := by
    intro run hperm
    have hagree' : NodeRefsAgree ((fresh [] run).flatMap IngestBatch.nodeRefs) := by
      have hsub : ∀ r ∈ (fresh [] run).flatMap IngestBatch.nodeRefs,
          r ∈ calls.flatMap IngestBatch.nodeRefs := by
        intro r hr
        obtain ⟨b, hb, hrb⟩ := List.mem_flatMap.mp hr
        exact List.mem_flatMap.mpr ⟨b, (hdistinct b).mp (hperm.mem_iff.mp hb), hrb⟩
      exact fun r hr r' hr' => hagree r (hsub r hr) r' (hsub r' hr')
    rw [ingestAll_eq_foldl_mergeBatch]
    refine (queryEdges_foldl_mergeBatch casefold clusterId window filters hagree').trans ?_
    exact answerOf_perm (((hperm.flatMap_right _).filter _).map _)
  intro answer
  have hcalls : answer = _ := hanswer calls (fresh_perm hreplay honce hdistinct)
  have hreplay' : ∀ b ∈ once, ∀ b' ∈ once, b.batchId = b'.batchId → b = b' :=
    fun b hb b' hb' => List.inj_on_of_nodup_map honce hb hb'
  rw [hcalls]
  refine ⟨(hanswer once (fresh_perm hreplay' honce (fun _ => Iff.rfl))).symm,
    answerOf_sorted _, ?_, fun a ha => answerOf_sums ha⟩
  intro k
  rw [mem_answerOf_keys, List.map_map, List.mem_map]
  rfl

/-! ### A small history -/

/-- A deployment in the namespace `shop`. -/
def sampleRef (name : String) (hname : name ≠ "") : NodeRef where
  id := "k8s:c:shop:Deployment:" ++ name
  kind := .deployment
  «namespace» := some "shop"
  name := name
  id_nonempty := by simp
  name_nonempty := hname

/-- `count` connections from `web` to `db`, the last one at `seen`. -/
def sampleEdge (count : Nat) (hcount : count ≠ 0) (failed : Option Nat) (seen : Datetime) :
    EdgeObservation where
  source := sampleRef "web" (by decide)
  target := sampleRef "db" (by decide)
  protocol := .tcp
  destinationPort := 5432
  connectionCount := count
  failedConnectionCount := failed
  connectLatencyCount := 0
  connectLatencySumUs := 0
  bytesSent := none
  bytesReceived := none
  firstSeen := seen
  lastSeen := seen
  port_range := by decide
  outcome_present := .inl hcount
  latency_samples := Nat.zero_le _
  latency_sum := fun _ => rfl
  interval := le_refl _

/-- A batch of one edge. -/
def sampleBatch (batchId : String) (hulid : isUlid batchId) (edge : EdgeObservation) :
    IngestBatch where
  schemaVersion := 1
  clusterId := "c"
  agentId := "topology-agent/n1"
  batchId := batchId
  observedAt := edge.lastSeen
  intervalSeconds := 10
  edges := [edge]
  clusterId_nonempty := by decide
  agentId_nonempty := by decide
  batchId_ulid := hulid
  interval_range := by decide
  edges_bound := by simp

def sampleEdgeA : EdgeObservation := sampleEdge 3 (by decide) none 1000

def sampleEdgeC : EdgeObservation := sampleEdge 1 (by decide) none 60000500

/-- Three connections, failures not measured. -/
def sampleBatchA : IngestBatch :=
  sampleBatch "01HZX3V9K7QWERTY0123456789" (by decide +kernel) sampleEdgeA

/-- Four connections in the same minute, two failures. -/
def sampleBatchB : IngestBatch :=
  sampleBatch "01HZX3V9K7QWERTY012345678A" (by decide +kernel) (sampleEdge 4 (by decide) (some 2) 2000)

/-- One connection in the next minute. -/
def sampleBatchC : IngestBatch :=
  sampleBatch "01HZX3V9K7QWERTY012345678B" (by decide +kernel) sampleEdgeC

/-- `A, B, A` answers as `B, A`: one edge with seven connections and two failures. -/
theorem queryEdges_replayed_sample :
    (((InMemoryRepository.new "c").ingestAll
        [sampleBatchA, sampleBatchB, sampleBatchA]).queryEdges id ⟨0, 60000000⟩ {} =
      ((InMemoryRepository.new "c").ingestAll
        [sampleBatchB, sampleBatchA]).queryEdges id ⟨0, 60000000⟩ {}) ∧
    (((InMemoryRepository.new "c").ingestAll
        [sampleBatchB, sampleBatchA]).queryEdges id ⟨0, 60000000⟩ {}).map
      (fun a => (a.connectionCount, a.failedConnectionCount)) = [(7, some 2)] := by
  refine ⟨(queryEdges_ingestAll_eq_once id "c" [sampleBatchA, sampleBatchB, sampleBatchA]
    [sampleBatchB, sampleBatchA] (by decide) (by decide) ?_ (by decide) ⟨0, 60000000⟩ {}).1,
    by decide⟩
  intro b
  simp only [List.mem_cons, List.not_mem_nil, or_false]
  tauto

end TopologyVisualizer.Backend
