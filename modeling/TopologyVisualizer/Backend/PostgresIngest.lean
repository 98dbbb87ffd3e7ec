import TopologyVisualizer.Backend.MemoryOrder
import TopologyVisualizer.Backend.Postgres

/-! # What the Ingest Transaction Does

    One specification per statement of `ingest_batch`, in the terms of the
    keyed sums. The bucket loop accumulates (`upsertEdges_spec`), the node
    loop stores one row per endpoint (`get?_upsertNodes`), and a committed
    transaction did both or nothing (`Ingests`). A statement on a batch that
    Pydantic accepted fails only by leaving BIGINT (`ingestBatch_ok`).
-/

namespace TopologyVisualizer.Backend.Postgres

open Sql (FitsBigint)

/-! ### The bucket statement -/

theorem caseSum_eq (a b : Option Nat) : Database.caseSum a b = addMeasured a b := by
  cases a <;> cases b <;> rfl

/-- `DO UPDATE SET` adds, as the in-memory merge does. -/
theorem doUpdate_eq_add (old excluded : Bucket) : Database.doUpdate old excluded = old + excluded := by
  show _ = old.merge excluded
  simp only [Database.doUpdate, caseSum_eq]
  rfl

/-- A part of a sum within BIGINT is within BIGINT. -/
theorem fitsBigint_of_add {a b : Option Nat} (h : FitsBigint (addMeasured a b)) :
    FitsBigint a := by
  unfold FitsBigint at h ⊢
  rw [addMeasured_getD] at h
  omega

theorem InRange.of_add {a b : Bucket} (h : InRange (a + b)) : InRange a := by
  obtain ⟨h₁, h₂, h₃, h₄, h₅, h₆⟩ := h
  exact ⟨fitsBigint_of_add (b := some b.connectionCount) h₁, fitsBigint_of_add h₂,
    fitsBigint_of_add (b := some b.connectLatencyCount) h₃,
    fitsBigint_of_add (b := some b.connectLatencySumUs) h₄,
    fitsBigint_of_add h₅, fitsBigint_of_add h₆⟩

/-- The CHECKs are kept by adding rows of one key. -/
theorem Checks.add {pk : BucketPk} {a b : Bucket} (ha : Checks pk a) (hb : Checks pk b) :
    Checks pk (a + b) := by
  obtain ⟨hport, houtcome, hsamples, hsum⟩ := ha
  obtain ⟨-, -, hsamples', hsum'⟩ := hb
  have hfailed : (a + b).failedConnectionCount.getD 0 =
      a.failedConnectionCount.getD 0 + b.failedConnectionCount.getD 0 := addMeasured_getD _ _
  refine ⟨hport, ?_, ?_, ?_⟩
  · rw [hfailed]
    show 0 < a.connectionCount + b.connectionCount ∨ _
    omega
  · show a.connectLatencyCount + b.connectLatencyCount ≤ a.connectionCount + b.connectionCount
    omega
  · show 0 < a.connectLatencyCount + b.connectLatencyCount ∨
      a.connectLatencySumUs + b.connectLatencySumUs = 0
    omega

/-- What Pydantic accepted passes the CHECKs. -/
theorem checks_ofEdge (clusterId : String) (e : EdgeObservation) :
    Checks (Database.pkOf clusterId e) (Bucket.ofEdge e) := by
  have houtcome := e.outcome_present
  have hsum := e.latency_sum
  refine ⟨e.port_range, ?_, e.latency_samples, ?_⟩
  · show 0 < e.connectionCount ∨ 0 < e.failedConnectionCount.getD 0
    omega
  · show 0 < e.connectLatencyCount ∨ e.connectLatencySumUs = 0
    omega

namespace Database

theorem upsertedRow_eq (db : Database) (pk : BucketPk) (excluded : Bucket) :
    db.edgeBuckets.set pk (db.upsertedRow pk excluded) = db.edgeBuckets.addAt pk excluded := by
  unfold upsertedRow Dict.addAt
  cases db.edgeBuckets.get? pk with
  | none => rfl
  | some old => simp only [doUpdate_eq_add]

/-- The upsert accumulates, if it succeeds. -/
theorem upsertBucket_spec {db db' : Database} {pk : BucketPk} {excluded : Bucket}
    (h : db.upsertBucket pk excluded = .ok db') :
    db'.edgeBuckets = db.edgeBuckets.addAt pk excluded ∧ db'.nodes = db.nodes ∧
    db'.ingestBatches = db.ingestBatches := by
  unfold upsertBucket at h
  simp only at h
  split at h
  · split at h
    · split at h
      · cases h
        exact ⟨upsertedRow_eq db pk excluded, rfl, rfl⟩
      · cases h
    · cases h
  · cases h

/-- It succeeds when the row stays within BIGINT and both nodes are there: the CHECKs never
    fail on a valid observation. -/
theorem upsertBucket_ok (db : Database) (clusterId : String) (e : EdgeObservation)
    (hrange : InRange (db.upsertedRow (pkOf clusterId e) (Bucket.ofEdge e)))
    (hsource : db.nodes.contains e.source.id = true)
    (htarget : db.nodes.contains e.target.id = true) :
    ∃ db', db.upsertBucket (pkOf clusterId e) (Bucket.ofEdge e) = .ok db' := by
  have hexcluded := checks_ofEdge clusterId e
  have hrow : Checks (pkOf clusterId e)
      (db.upsertedRow (pkOf clusterId e) (Bucket.ofEdge e)) := by
    unfold upsertedRow
    cases hold : db.edgeBuckets.get? (pkOf clusterId e) with
    | none => exact hexcluded
    | some old =>
      simp only [doUpdate_eq_add]
      exact (db.checks _ _ hold).2.add hexcluded
  unfold upsertBucket
  simp only [dif_pos hrange, dif_pos (And.intro hexcluded hrow)]
  rw [dif_pos (show db.nodes.contains (pkOf clusterId e).edge.sourceId = true ∧
    db.nodes.contains (pkOf clusterId e).edge.targetId = true from ⟨hsource, htarget⟩)]
  exact ⟨_, rfl⟩

/-! ### The bucket loop -/

/-- What a batch files in `edge_buckets`. -/
def contributions (batch : IngestBatch) : List (BucketPk × Bucket) :=
  batch.edges.map (fun e => (pkOf batch.clusterId e, Bucket.ofEdge e))

/-- The loop over the edges, from any database. -/
def upsertEdges (clusterId : String) (db : Database) (edges : List EdgeObservation) :
    Except Sql.Error Database :=
  edges.foldlM (fun db e => db.upsertBucket (pkOf clusterId e) (Bucket.ofEdge e)) db

theorem upsertEdges_cons (clusterId : String) (db : Database) (e : EdgeObservation)
    (es : List EdgeObservation) :
    upsertEdges clusterId db (e :: es) =
      (db.upsertBucket (pkOf clusterId e) (Bucket.ofEdge e)).bind
        (fun db' => upsertEdges clusterId db' es) := rfl

theorem upsertEdges_spec {clusterId : String} {db db' : Database} {edges : List EdgeObservation}
    (h : upsertEdges clusterId db edges = .ok db') :
    db'.edgeBuckets = db.edgeBuckets.sumInto
      (edges.map (fun e => (pkOf clusterId e, Bucket.ofEdge e))) ∧
    db'.nodes = db.nodes ∧ db'.ingestBatches = db.ingestBatches := by
  induction edges generalizing db with
  | nil =>
    cases h
    exact ⟨rfl, rfl, rfl⟩
  | cons e es ih =>
    rw [upsertEdges_cons] at h
    cases hfirst : db.upsertBucket (pkOf clusterId e) (Bucket.ofEdge e) with
    | error err => rw [hfirst] at h; cases h
    | ok db₁ =>
      rw [hfirst] at h
      obtain ⟨hb, hn, hi⟩ := upsertBucket_spec hfirst
      obtain ⟨hb', hn', hi'⟩ := ih h
      refine ⟨?_, hn'.trans hn, hi'.trans hi⟩
      rw [hb', hb]
      rfl

/-- The loop succeeds when the rows it ends with are within BIGINT: the counts only grow. -/
theorem upsertEdges_ok (clusterId : String) (db : Database) (edges : List EdgeObservation)
    (hnodes : ∀ e ∈ edges, db.nodes.contains e.source.id = true ∧
      db.nodes.contains e.target.id = true)
    (hrange : ∀ pk b, (db.edgeBuckets.sumInto
      (edges.map (fun e => (pkOf clusterId e, Bucket.ofEdge e)))).get? pk = some b → InRange b) :
    ∃ db', upsertEdges clusterId db edges = .ok db' := by
  induction edges generalizing db with
  | nil => exact ⟨db, rfl⟩
  | cons e es ih =>
    set pk := pkOf clusterId e with hpk
    set rest := es.map (fun e => (pkOf clusterId e, Bucket.ofEdge e)) with hrest
    have hsum : db.edgeBuckets.sumInto ((e :: es).map (fun e => (pkOf clusterId e, Bucket.ofEdge e)))
        = (db.edgeBuckets.addAt pk (Bucket.ofEdge e)).sumInto rest := rfl
    rw [hsum] at hrange
    -- the row after this statement is a part of the row at the end
    have hrow : InRange (db.upsertedRow pk (Bucket.ofEdge e)) := by
      set row := db.upsertedRow pk (Bucket.ofEdge e) with hrowdef
      have htotal : ((db.edgeBuckets.addAt pk (Bucket.ofEdge e)).sumInto rest).total pk =
          (row : WithZero Bucket) + keyedSum rest pk := by
        rw [Dict.total_sumInto, ← upsertedRow_eq, ← hrowdef, Dict.total, Dict.get?_set_self]
        rfl
      cases hlater : keyedSum rest pk using WithZero.recZeroCoe with
      | zero =>
        rw [hlater, add_zero] at htotal
        exact hrange pk row htotal
      | coe later =>
        rw [hlater, ← WithZero.coe_add] at htotal
        exact (hrange pk (row + later) htotal).of_add
    obtain ⟨hs, ht⟩ := hnodes e List.mem_cons_self
    obtain ⟨db₁, hdb₁⟩ := db.upsertBucket_ok clusterId e hrow hs ht
    obtain ⟨hb, hn, -⟩ := upsertBucket_spec hdb₁
    have hrest' := ih db₁
      (by intro e' he'; rw [hn]; exact hnodes e' (List.mem_cons_of_mem _ he'))
      (by rw [hb]; exact hrange)
    obtain ⟨db', hdb'⟩ := hrest'
    refine ⟨db', ?_⟩
    rw [upsertEdges_cons, hdb₁]
    exact hdb'

/-! ### The node loop -/

/-- The rows proposed for `nodes`, in the order of the statements. -/
def proposedRows (batch : IngestBatch) : List StoredNode :=
  (sortOn id (collectNodes batch.edges).keys).filterMap (fun nid =>
    ((collectNodes batch.edges).get? nid).map (fun x => nodeRow batch.clusterId x.1 x.2.1 x.2.2))

/-- The node loop writes `nodes` only. -/
theorem upsertNodes_eq (db : Database) (batch : IngestBatch) :
    (db.upsertNodes batch).nodes =
      (proposedRows batch).foldl (fun d row => d.upsert row.id (upserted row)) db.nodes ∧
    (db.upsertNodes batch).edgeBuckets = db.edgeBuckets ∧
    (db.upsertNodes batch).ingestBatches = db.ingestBatches := by
  unfold upsertNodes proposedRows
  simp only
  generalize sortOn id (collectNodes batch.edges).keys = nids
  induction nids generalizing db with
  | nil => exact ⟨rfl, rfl, rfl⟩
  | cons nid nids ih =>
    rw [List.foldl_cons, List.filterMap_cons]
    cases (collectNodes batch.edges).get? nid with
    | none => exact ih db
    | some x =>
      obtain ⟨hn, hb, hi⟩ := ih (db.upsertNode (nodeRow batch.clusterId x.1 x.2.1 x.2.2))
      exact ⟨hn, hb, hi⟩

/-- The entries of `collectNodes` under an id: the fold of the endpoints with this id. -/
theorem get?_collectNodes (edges : List EdgeObservation) (nid : String) :
    (collectNodes edges).get? nid =
      ((endpoints edges).filter (fun x => x.1.id = nid)).foldl
        (fun v x => some (collected x v)) none :=
  Dict.get?_foldl_upsert (fun x : NodeRef × Datetime × Datetime => x.1.id) collected
    (endpoints edges) .empty nid

/-- What a pass keeps of some endpoints is the report of one of them. -/
theorem foldl_collected_mem {xs : List (NodeRef × Datetime × Datetime)}
    {x : NodeRef × Datetime × Datetime}
    (h : xs.foldl (fun v x => some (collected x v)) none = some x) : ∃ y ∈ xs, x.1 = y.1 := by
  induction xs using List.reverseRecOn with
  | nil => cases h
  | append_singleton xs y _ =>
    rw [List.foldl_append] at h
    simp only [List.foldl_cons, List.foldl_nil, Option.some.injEq] at h
    refine ⟨y, by simp, ?_⟩
    -- the latest report is kept, whatever was there
    rw [← h]
    cases List.foldl (fun v x => some (collected x v)) none xs with
    | none => rfl
    | some z => rfl

/-- The report kept under an id is of this id. -/
theorem collectNodes_id {edges : List EdgeObservation} {nid : String}
    {x : NodeRef × Datetime × Datetime} (h : (collectNodes edges).get? nid = some x) :
    x.1.id = nid := by
  rw [get?_collectNodes] at h
  obtain ⟨y, hy, hxy⟩ := foldl_collected_mem h
  rw [hxy]
  exact of_decide_eq_true (List.mem_filter.mp hy).2

/-- At most one row is proposed per id. -/
theorem proposedRows_filter (batch : IngestBatch) (nid : String) :
    (proposedRows batch).filter (fun row => row.id = nid) =
      (((collectNodes batch.edges).get? nid).map
        (fun x => nodeRow batch.clusterId x.1 x.2.1 x.2.2)).toList := by
  set collected := collectNodes batch.edges with hcollected
  set row := fun x : NodeRef × Datetime × Datetime => nodeRow batch.clusterId x.1 x.2.1 x.2.2
    with hrow
  have hid : ∀ k x, collected.get? k = some x → (row x).id = k := fun k x hx => collectNodes_id hx
  have hkeys : (sortOn id collected.keys).Nodup := (sortOn_perm id _).nodup_iff.mpr collected.nodup
  have hmem : nid ∈ sortOn id collected.keys ↔ ∃ x, collected.get? nid = some x := by
    rw [mem_sortOn, Dict.mem_keys_iff]
  unfold proposedRows
  rw [← hcollected]
  change (((sortOn id collected.keys).filterMap (fun k => (collected.get? k).map row)).filter
    (fun r => r.id = nid)) = _
  generalize sortOn id collected.keys = ks at hkeys hmem
  -- walk the keys; only `nid` itself proposes a row with this id
  have hwalk : ∀ ks : List String, ks.Nodup →
      (ks.filterMap (fun k => (collected.get? k).map row)).filter (fun r => r.id = nid) =
        if nid ∈ ks then ((collected.get? nid).map row).toList else [] := by
    intro ks hnd
    induction ks with
    | nil => rfl
    | cons k ks ih =>
      rw [List.nodup_cons] at hnd
      rw [List.filterMap_cons]
      cases hk : collected.get? k with
      | none =>
        simp only [Option.map_none]
        rw [ih hnd.2]
        by_cases hkn : nid = k
        · subst hkn
          simp [hnd.1, hk]
        · simp [hkn]
      | some x =>
        have hxid := hid k x hk
        simp only [Option.map_some, List.filter_cons, hxid]
        rw [ih hnd.2]
        by_cases hkn : k = nid
        · subst hkn
          simp [hnd.1, hk]
        · have hnk : nid ≠ k := fun h => hkn h.symm
          simp [hkn, hnk]
  rw [hwalk ks hkeys]
  split
  · rfl
  · next hnot =>
    cases hget : collected.get? nid with
    | none => rfl
    | some x => exact absurd (hmem.mpr ⟨x, hget⟩) hnot

/-- **The node loop**: what is stored under an id afterwards. -/
theorem get?_upsertNodes (db : Database) (batch : IngestBatch) (nid : String) :
    (db.upsertNodes batch).nodes.get? nid =
      ((collectNodes batch.edges).get? nid).elim (db.nodes.get? nid) (fun x =>
        some (upserted (nodeRow batch.clusterId x.1 x.2.1 x.2.2) (db.nodes.get? nid))) := by
  rw [(db.upsertNodes_eq batch).1]
  have hfold := Dict.get?_foldl_upsert StoredNode.id upserted (proposedRows batch) db.nodes nid
  rw [hfold, proposedRows_filter]
  cases (collectNodes batch.edges).get? nid with
  | none => rfl
  | some x => rfl

/-- Every endpoint is collected. -/
theorem mem_collectNodes {edges : List EdgeObservation} {x : NodeRef × Datetime × Datetime}
    (hx : x ∈ endpoints edges) : x.1.id ∈ (collectNodes edges).keys := by
  have hmem : x ∈ (endpoints edges).filter (fun y => y.1.id = x.1.id) :=
    List.mem_filter.mpr ⟨hx, decide_eq_true rfl⟩
  rw [Dict.mem_keys_iff, get?_collectNodes]
  generalize (endpoints edges).filter (fun y => y.1.id = x.1.id) = xs at hmem
  induction xs using List.reverseRecOn with
  | nil => cases hmem
  | append_singleton xs y _ =>
    rw [List.foldl_append]
    exact ⟨_, rfl⟩

/-- The endpoints of an edge are among the nodes of its batch. -/
theorem mem_collectNodes_of_edge {edges : List EdgeObservation} {e : EdgeObservation}
    (he : e ∈ edges) :
    e.source.id ∈ (collectNodes edges).keys ∧ e.target.id ∈ (collectNodes edges).keys := by
  have hsource : (e.source, e.firstSeen, e.lastSeen) ∈ endpoints edges :=
    List.mem_flatMap.mpr ⟨e, he, by simp⟩
  have htarget : (e.target, e.firstSeen, e.lastSeen) ∈ endpoints edges :=
    List.mem_flatMap.mpr ⟨e, he, by simp⟩
  exact ⟨mem_collectNodes hsource, mem_collectNodes htarget⟩

/-- Both endpoints of every edge are stored afterwards. -/
theorem contains_upsertNodes (db : Database) (batch : IngestBatch) {e : EdgeObservation}
    (he : e ∈ batch.edges) :
    (db.upsertNodes batch).nodes.contains e.source.id = true ∧
    (db.upsertNodes batch).nodes.contains e.target.id = true := by
  have hstored : ∀ nid ∈ (collectNodes batch.edges).keys,
      (db.upsertNodes batch).nodes.contains nid = true := by
    intro nid hnid
    obtain ⟨x, hx⟩ := Dict.mem_keys_iff.mp hnid
    unfold Dict.contains
    rw [get?_upsertNodes, hx]
    rfl
  obtain ⟨hs, ht⟩ := mem_collectNodes_of_edge he
  exact ⟨hstored _ hs, hstored _ ht⟩

/-! ### The transaction -/

/-- What a committed `ingest_batch` did: nothing for a known id, and otherwise the three
    writes. -/
inductive Ingests (db : Database) (batch : IngestBatch) (receivedAt : Datetime) :
    Database → IngestOutcome → Prop where
  | known : db.ingestBatches.contains batch.batchId = true →
      Ingests db batch receivedAt db .alreadyIngested
  | fresh {db' : Database} : db.ingestBatches.contains batch.batchId = false →
      db'.ingestBatches = db.ingestBatches.set batch.batchId (batchRow batch receivedAt) →
      (∀ nid, db'.nodes.get? nid = (db.upsertNodes batch).nodes.get? nid) →
      db'.edgeBuckets = db.edgeBuckets.sumInto (contributions batch) →
      Ingests db batch receivedAt db' .ingested

theorem ingests_of_ok {db db' : Database} {batch : IngestBatch} {receivedAt : Datetime}
    {outcome : IngestOutcome} (h : db.ingestBatch batch receivedAt = .ok (db', outcome)) :
    Ingests db batch receivedAt db' outcome := by
  unfold ingestBatch insertBatch at h
  by_cases hknown : db.ingestBatches.contains batch.batchId = true
  · rw [if_pos hknown] at h
    cases h
    exact .known hknown
  · rw [if_neg hknown] at h
    simp only at h
    split at h
    · cases h
    · next merged hmerged =>
      cases h
      obtain ⟨hb, hn, hi⟩ := upsertEdges_spec hmerged
      obtain ⟨-, hb', hi'⟩ := upsertNodes_eq
        { db with
          ingestBatches := db.ingestBatches.set batch.batchId (batchRow batch receivedAt) } batch
      refine .fresh (by simpa using hknown) (hi.trans hi') ?_ ?_
      · intro nid
        rw [hn, get?_upsertNodes, get?_upsertNodes]
      · rw [hb, hb']
        rfl

/-- The database after a call of `ingest_batch`: an error rolls back. -/
def committed (db : Database) (batch : IngestBatch) (receivedAt : Datetime) : Database :=
  match db.ingestBatch batch receivedAt with
  | .ok result => result.1
  | .error _ => db

theorem ingestBatch_eq_committed {db : Database} {batch : IngestBatch} {receivedAt : Datetime}
    {outcome : IngestOutcome}
    (h : (db.ingestBatch batch receivedAt).map Prod.snd = .ok outcome) :
    db.ingestBatch batch receivedAt = .ok (db.committed batch receivedAt, outcome) := by
  unfold committed
  cases hres : db.ingestBatch batch receivedAt with
  | error error =>
    rw [hres] at h
    cases h
  | ok result =>
    rw [hres] at h
    cases h
    rfl

/-- The transaction succeeds when the buckets it leaves are within BIGINT. -/
theorem ingestBatch_ok (db : Database) (batch : IngestBatch) (receivedAt : Datetime)
    (hrange : db.ingestBatches.contains batch.batchId = false →
      ∀ pk b, (db.edgeBuckets.sumInto (contributions batch)).get? pk = some b → InRange b) :
    ∃ db' outcome, db.ingestBatch batch receivedAt = .ok (db', outcome) := by
  unfold ingestBatch insertBatch
  by_cases hknown : db.ingestBatches.contains batch.batchId = true
  · rw [if_pos hknown]
    exact ⟨_, _, rfl⟩
  · rw [if_neg hknown]
    set gated : Database := { db with
      ingestBatches := db.ingestBatches.set batch.batchId (batchRow batch receivedAt) } with hgated
    have hbuckets : (gated.upsertNodes batch).edgeBuckets = db.edgeBuckets :=
      (gated.upsertNodes_eq batch).2.1
    obtain ⟨merged, hmerged⟩ := upsertEdges_ok batch.clusterId (gated.upsertNodes batch) batch.edges
      (fun e he => gated.contains_upsertNodes batch he)
      (by rw [hbuckets]; exact hrange (by simpa using hknown))
    have hloop : (gated.upsertNodes batch).upsertBuckets batch = .ok merged := hmerged
    simp only [hloop]
    exact ⟨_, _, rfl⟩

end Database

end TopologyVisualizer.Backend.Postgres
