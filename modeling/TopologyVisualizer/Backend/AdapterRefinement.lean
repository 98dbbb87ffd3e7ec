import TopologyVisualizer.Backend.AdapterMatch
import TopologyVisualizer.Backend.PostgresIngest
import TopologyVisualizer.Backend.PostgresPurge

/-! # The Adapters Refine One Another

    A sequence of `ingest_batch` and `purge_expired` calls, made to a fresh
    in-memory repository and to a fresh database. The in-memory run is a
    function; the PostgreSQL run is a relation, because the server chooses
    the rows of each bounded delete and a statement can fail. Each call
    keeps `Matches` and gets the same reply (`Matches.ingest`,
    `Matches.purge`), so after any sequence the stores answer alike
    (`postgres_refines_memory`).

    The in-memory repository never forgets a batch id and PostgreSQL forgets
    those received before the cutoff, so a batch is re-sent only while its
    row is there (`ReplaysKept`).
-/

namespace TopologyVisualizer.Backend

open Postgres InMemoryRepository

/-! ### Calls -/

/-- A call that changes the store. `receivedAt` is the database's clock at the call. -/
inductive Call where
  | ingest (batch : IngestBatch) (receivedAt : Datetime)
  | purge (before : Datetime)

/-- What the caller gets. -/
inductive Reply where
  | outcome (outcome : IngestOutcome)
  | purged (stats : PurgeStats)
  | failed (error : Sql.Error)
  deriving DecidableEq

/-- The batches sent. -/
def Call.batches (calls : List Call) : List IngestBatch :=
  calls.filterMap (fun
    | .ingest batch _ => some batch
    | .purge _ => none)

/-- One call to the in-memory repository. -/
def InMemoryRepository.call (repo : InMemoryRepository) : Call → InMemoryRepository × Reply
  | .ingest batch _ => ((repo.ingestBatch batch).1, .outcome (repo.ingestBatch batch).2)
  | .purge before => ((repo.purgeExpired before).1, .purged (repo.purgeExpired before).2)

/-- A sequence of calls, with the replies. -/
def InMemoryRepository.calls (repo : InMemoryRepository) :
    List Call → InMemoryRepository × List Reply
  | [] => (repo, [])
  | c :: cs =>
    (((repo.call c).1.calls cs).1, (repo.call c).2 :: ((repo.call c).1.calls cs).2)

/-- One call to PostgreSQL. A failed transaction leaves the database as it was. -/
inductive Answers (db : Database) : Call → Database → Reply → Prop where
  | ingested {batch : IngestBatch} {receivedAt : Datetime} {db' : Database}
      {outcome : IngestOutcome} :
      db.ingestBatch batch receivedAt = .ok (db', outcome) →
      Answers db (.ingest batch receivedAt) db' (.outcome outcome)
  | failed {batch : IngestBatch} {receivedAt : Datetime} {error : Sql.Error} :
      db.ingestBatch batch receivedAt = .error error →
      Answers db (.ingest batch receivedAt) db (.failed error)
  | purged {before : Datetime} {db' : Database} {stats : PurgeStats} :
      Database.PurgesExpired before db db' stats →
      Answers db (.purge before) db' (.purged stats)

/-- A sequence of calls, with the replies. -/
inductive AnswersAll : Database → List Call → Database → List Reply → Prop where
  | nil {db : Database} : AnswersAll db [] db []
  | cons {db db₁ db₂ : Database} {c : Call} {cs : List Call} {r : Reply} {rs : List Reply} :
      Answers db c db₁ r → AnswersAll db₁ cs db₂ rs → AnswersAll db (c :: cs) db₂ (r :: rs)

/-! ### What is assumed of a sequence -/

/-- Every stored count is a BIGINT, after each call. -/
def SumsFit (repo : InMemoryRepository) : List Call → Prop
  | [] => True
  | c :: cs =>
    (∀ e ∈ (repo.call c).1.buckets.entries, InRange e.2) ∧ SumsFit (repo.call c).1 cs

/-- Each batch id sent again is one whose row no purge has removed. -/
def ReplaysKept (seen : List String) (kept : Dict String Datetime) : List Call → Prop
  | [] => True
  | .ingest batch receivedAt :: cs =>
    (batch.batchId ∈ seen → kept.contains batch.batchId = true) ∧
    ReplaysKept (batch.batchId :: seen)
      (if kept.contains batch.batchId then kept else kept.set batch.batchId receivedAt) cs
  | .purge before :: cs =>
    ReplaysKept seen (kept.filter (fun _ receivedAt => !decide (receivedAt < before))) cs

/-! ### Nodes -/

/-- `_upsert_node` does what the SQL upsert does. -/
theorem upsertNode_eq_upsert (nodes : Dict String StoredNode) (clusterId : String) (ref : NodeRef)
    (firstSeen lastSeen : Datetime) :
    upsertNode nodes clusterId ref firstSeen lastSeen =
      nodes.upsert ref.id
        (Database.upserted (Database.nodeRow clusterId ref firstSeen lastSeen)) := by
  unfold upsertNode Dict.upsert
  cases nodes.get? ref.id with
  | none => rfl
  | some existing => rfl

/-- The ingest loop on the nodes, endpoint by endpoint. -/
theorem foldl_ingestEdge_nodes (repo : InMemoryRepository) (edges : List EdgeObservation) :
    (edges.foldl ingestEdge repo).nodes =
      (Database.endpoints edges).foldl (fun nodes x => nodes.upsert x.1.id
        (Database.upserted (Database.nodeRow repo.clusterId x.1 x.2.1 x.2.2))) repo.nodes := by
  induction edges generalizing repo with
  | nil => rfl
  | cons e es ih =>
    have hends : Database.endpoints (e :: es) =
        (e.source, e.firstSeen, e.lastSeen) :: (e.target, e.firstSeen, e.lastSeen) ::
          Database.endpoints es := rfl
    rw [List.foldl_cons, ih, hends, List.foldl_cons, List.foldl_cons, ← upsertNode_eq_upsert,
      ← upsertNode_eq_upsert]
    rfl

/-- Upserting endpoints one by one, or the one row collected from them: the same, when their
    reports agree. -/
theorem foldl_upserted_eq (clusterId : String) (xs : List (NodeRef × Datetime × Datetime))
    (hagree : ∀ x ∈ xs, ∀ y ∈ xs, ∀ f l,
      Database.nodeRow clusterId x.1 f l = Database.nodeRow clusterId y.1 f l)
    (stored : Option StoredNode) :
    xs.foldl (fun v x => some
        (Database.upserted (Database.nodeRow clusterId x.1 x.2.1 x.2.2) v)) stored =
      (xs.foldl (fun v x => some (Database.collected x v)) none).elim stored (fun x =>
        some (Database.upserted (Database.nodeRow clusterId x.1 x.2.1 x.2.2) stored)) := by
  induction xs using List.reverseRecOn with
  | nil => rfl
  | append_singleton xs x ih =>
    have hagree' : ∀ y ∈ xs, ∀ z ∈ xs, ∀ f l,
        Database.nodeRow clusterId y.1 f l = Database.nodeRow clusterId z.1 f l :=
      fun y hy z hz => hagree y (List.mem_append_left _ hy) z (List.mem_append_left _ hz)
    rw [List.foldl_append, List.foldl_append, ih hagree']
    cases hw : xs.foldl (fun v x => some (Database.collected x v)) none with
    | none => rfl
    | some w =>
      obtain ⟨y, hy, hwy⟩ := Database.foldl_collected_mem hw
      -- the collected report and the new one describe the node alike
      have hrow : ∀ f l, Database.nodeRow clusterId w.1 f l = Database.nodeRow clusterId x.1 f l := by
        intro f l
        rw [hwy]
        exact hagree y (List.mem_append_left _ hy) x (by simp) f l
      cases stored with
      | none =>
        show some (Database.widen (Database.nodeRow clusterId w.1 w.2.1 w.2.2) _) =
          some (Database.nodeRow clusterId x.1 (min w.2.1 x.2.1) (max w.2.2 x.2.2))
        rw [← hrow (min w.2.1 x.2.1)]
        rfl
      | some old =>
        show some (Database.widen (Database.widen old _) _) = some (Database.widen old _)
        simp only [Database.widen, Database.nodeRow, min_assoc, max_assoc]
        rfl

/-- Both adapters leave the same nodes, whatever they held alike before. -/
theorem mergeBatch_nodes {repo : InMemoryRepository} {db : Database} {batch : IngestBatch}
    (hnodes : ∀ nid, db.nodes.get? nid = repo.nodes.get? nid)
    (hcluster : batch.clusterId = repo.clusterId) (hagree : NodeRefsAgree batch.nodeRefs)
    (nid : String) :
    (db.upsertNodes batch).nodes.get? nid = (repo.mergeBatch batch).nodes.get? nid := by
  set xs := (Database.endpoints batch.edges).filter (fun x => x.1.id = nid) with hxs
  have hrefs : ∀ x ∈ xs, x.1 ∈ batch.nodeRefs ∧ x.1.id = nid := by
    intro x hx
    obtain ⟨hmem, hid⟩ := List.mem_filter.mp hx
    obtain ⟨e, he, hxe⟩ := List.mem_flatMap.mp hmem
    refine ⟨List.mem_flatMap.mpr ⟨e, he, ?_⟩, of_decide_eq_true hid⟩
    simp only [List.mem_cons, List.not_mem_nil, or_false] at hxe ⊢
    rcases hxe with rfl | rfl
    · exact Or.inl rfl
    · exact Or.inr rfl
  have hrows : ∀ x ∈ xs, ∀ y ∈ xs, ∀ f l,
      Database.nodeRow repo.clusterId x.1 f l = Database.nodeRow repo.clusterId y.1 f l := by
    intro x hx y hy f l
    obtain ⟨hxr, hxid⟩ := hrefs x hx
    obtain ⟨hyr, hyid⟩ := hrefs y hy
    obtain ⟨hkind, hns, hname⟩ := hagree x.1 hxr y.1 hyr (hxid.trans hyid.symm)
    simp only [Database.nodeRow, hkind, hns, hname, hxid, hyid]
  have hmem : (repo.mergeBatch batch).nodes.get? nid = xs.foldl (fun v x => some
      (Database.upserted (Database.nodeRow repo.clusterId x.1 x.2.1 x.2.2) v))
      (repo.nodes.get? nid) := by
    unfold mergeBatch
    rw [foldl_ingestEdge_nodes]
    exact Dict.get?_foldl_upsert (fun x : NodeRef × Datetime × Datetime => x.1.id)
      (fun x => Database.upserted (Database.nodeRow repo.clusterId x.1 x.2.1 x.2.2)) _ _ nid
  rw [hmem, foldl_upserted_eq repo.clusterId xs hrows, Database.get?_upsertNodes,
    Database.get?_collectNodes, hnodes, hcluster]

/-! ### One call -/

/-- What a batch files, under the primary keys of its cluster. -/
theorem contributions_eq (batch : IngestBatch) :
    Database.contributions batch =
      batch.contributions.map (fun e => (e.1.pk batch.clusterId, e.2)) := by
  unfold Database.contributions IngestBatch.contributions
  rw [List.map_map]
  rfl

/-- Both adapters add what the batch files to the same buckets. -/
theorem SameBuckets.sumInto {clusterId : String} {buckets : Dict BucketKey Bucket}
    {rows : Dict BucketPk Bucket} (h : SameBuckets clusterId buckets rows) {batch : IngestBatch}
    (hcluster : batch.clusterId = clusterId) :
    SameBuckets clusterId (buckets.sumInto batch.contributions)
      (rows.sumInto (Database.contributions batch)) where
  same := by
    intro key
    have htotal : (rows.sumInto (Database.contributions batch)).total (key.pk clusterId) =
        (buckets.sumInto batch.contributions).total key := by
      rw [Dict.total_sumInto, Dict.total_sumInto, contributions_eq, hcluster,
        keyedSum_map_key (BucketKey.pk_injective clusterId)]
      congr 1
      exact h.same key
    exact htotal
  own := by
    intro pk hpk
    rcases Dict.mem_keys_sumInto.mp hpk with hold | hnew
    · exact h.own pk hold
    · rw [contributions_eq, List.map_map] at hnew
      obtain ⟨e, -, rfl⟩ := List.mem_map.mp hnew
      exact hcluster

section steps
variable {clusterId : String} {seen : List String} {kept : Dict String Datetime}
  {repo : InMemoryRepository} {db : Database}

/-- The two gates agree: a known id is one whose row is kept. -/
theorem Matches.contains_iff (h : Matches clusterId seen kept repo db) (id : String) :
    db.ingestBatches.contains id = kept.contains id := by
  unfold Dict.contains
  rw [← h.received]
  exact Option.isSome_map.symm

/-- A batch that is not kept has not been seen, if what was seen is still kept. -/
theorem Matches.unseen (h : Matches clusterId seen kept repo db) {id : String}
    (hkept : id ∈ seen → kept.contains id = true) (hnew : kept.contains id = false) :
    id ∉ repo.batches := by
  intro hmem
  have hstill := hkept ((h.batches id).mp hmem)
  rw [hnew] at hstill
  cases hstill

/-- **One `ingest_batch`**: the transaction succeeds, with the same outcome. -/
theorem Matches.ingest (h : Matches clusterId seen kept repo db) {batch : IngestBatch}
    {receivedAt : Datetime} (hcluster : batch.clusterId = clusterId)
    (hagree : NodeRefsAgree batch.nodeRefs)
    (hkept : batch.batchId ∈ seen → kept.contains batch.batchId = true)
    {db' : Database} {outcome : IngestOutcome}
    (hstep : Database.Ingests db batch receivedAt db' outcome) :
    outcome = (repo.ingestBatch batch).2 ∧
    Matches clusterId (batch.batchId :: seen)
      (if kept.contains batch.batchId then kept else kept.set batch.batchId receivedAt)
      (repo.ingestBatch batch).1 db' := by
  cases hstep with
  | known hknown =>
    rw [h.contains_iff] at hknown
    obtain ⟨t, ht⟩ := Option.isSome_iff_exists.mp hknown
    have hseen : batch.batchId ∈ seen :=
      h.remembered _ (Dict.mem_keys_iff.mpr ⟨t, ht⟩)
    have hgate : repo.ingestBatch batch = (repo, .alreadyIngested) :=
      if_pos ((h.batches _).mpr hseen)
    rw [hgate, if_pos hknown]
    refine ⟨rfl, h.cluster, h.nodes, h.buckets, ?_, h.received, ?_⟩
    · intro id
      rw [h.batches, List.mem_cons]
      exact ⟨Or.inr, fun hid => hid.elim (fun heq => heq ▸ hseen) (fun h => h)⟩
    · exact fun id hid => List.mem_cons_of_mem _ (h.remembered id hid)
  | fresh hnew hrows hnodes hbuckets =>
    rw [h.contains_iff] at hnew
    have hunseen := h.unseen hkept hnew
    have hgate : repo.ingestBatch batch = (repo.mergeBatch batch, .ingested) := if_neg hunseen
    rw [hgate, if_neg (by rw [hnew]; exact Bool.false_ne_true)]
    refine ⟨rfl, ?_, ?_, ?_, ?_, ?_, ?_⟩
    · exact (mergeBatch_clusterId repo batch).trans h.cluster
    · intro nid
      rw [hnodes, mergeBatch_nodes h.nodes (hcluster.trans h.cluster.symm) hagree]
    · rw [hbuckets, mergeBatch_buckets]
      exact h.buckets.sumInto hcluster
    · intro id
      rw [mergeBatch_batches, List.mem_cons, List.mem_cons, h.batches]
    · intro id
      rw [hrows, Dict.get?_set, Dict.get?_set]
      by_cases hid : id = batch.batchId
      · rw [if_pos hid, if_pos hid]
        rfl
      · rw [if_neg hid, if_neg hid]
        exact h.received id
    · intro id hid
      rcases Dict.mem_keys_set.mp hid with rfl | hid
      · exact List.mem_cons_self
      · exact List.mem_cons_of_mem _ (h.remembered id hid)

/-- When what it leaves fits, the transaction succeeds. -/
theorem Matches.ingest_ok (h : Matches clusterId seen kept repo db) {batch : IngestBatch}
    (receivedAt : Datetime) (hcluster : batch.clusterId = clusterId)
    (hkept : batch.batchId ∈ seen → kept.contains batch.batchId = true)
    (hfit : ∀ e ∈ (repo.ingestBatch batch).1.buckets.entries, InRange e.2) :
    ∃ db' outcome, db.ingestBatch batch receivedAt = .ok (db', outcome) := by
  apply Database.ingestBatch_ok
  intro hnew pk b hb
  rw [h.contains_iff] at hnew
  have hunseen := h.unseen hkept hnew
  have hmerged : (repo.ingestBatch batch).1.buckets =
      repo.buckets.sumInto batch.contributions := by
    unfold ingestBatch
    rw [if_neg hunseen, mergeBatch_buckets]
  rw [hmerged] at hfit
  -- the row is one of the merged in-memory buckets
  have hrow := (h.buckets.sumInto hcluster).entries.mem_iff.mp (Dict.get?_eq_some_iff.mp hb)
  obtain ⟨e, he, heq⟩ := List.mem_map.mp hrow
  cases heq
  exact hfit e he

/-- Both adapters see the same nodes referenced. -/
theorem SameBuckets.referenced {buckets : Dict BucketKey Bucket} {rows : Dict BucketPk Bucket}
    (h : SameBuckets clusterId buckets rows) (nid : String) :
    Database.referenced rows nid = InMemoryRepository.referenced buckets nid := by
  unfold Database.referenced InMemoryRepository.referenced
  rw [h.keys.any_eq, List.any_map]
  rfl

/-- **One `purge_expired`**: the same counts, and the stores still match. -/
theorem Matches.purge (h : Matches clusterId seen kept repo db) {before : Datetime}
    {db' : Database} {stats : PurgeStats}
    (hstep : Database.PurgesExpired before db db' stats) :
    stats = (repo.purgeExpired before).2 ∧
    Matches clusterId seen (kept.filter (fun _ receivedAt => !decide (receivedAt < before)))
      (repo.purgeExpired before).1 db' := by
  obtain ⟨hb, hn, hi, hexpired, horphans⟩ := hstep.spec
  have hsame : SameBuckets clusterId
      (repo.buckets.filter (fun key _ => !decide (key.bucketStart < before)))
      (db.unexpired before) := h.buckets.filter (fun start => !decide (start < before))
  constructor
  · have hbuckets : (db.expired before).length =
        (repo.buckets.keys.filter (fun key => key.bucketStart < before)).length := by
      have hperm := h.buckets.keys.filter (fun pk => decide (pk.bucketStart < before))
      rw [List.filter_map] at hperm
      exact hperm.length_eq.trans (List.length_map _)
    have hnodes := ((Dict.keys_perm_of_get?_eq h.nodes).filter
      (fun nid => !Database.referenced (db.unexpired before) nid)).length_eq
    rw [funext hsame.referenced] at hnodes
    cases stats
    simp only at hexpired horphans
    rw [hexpired, horphans, hbuckets, funext hsame.referenced, hnodes]
    rfl
  · refine ⟨h.cluster, ?_, ?_, h.batches, ?_, ?_⟩
    · intro nid
      show _ = (repo.nodes.filter _).get? nid
      rw [hn, Dict.get?_filter, Dict.get?_filter, h.nodes, hsame.referenced]
    · rw [hb]
      exact hsame
    · intro id
      rw [hi, Dict.get?_filter, Dict.get?_filter, ← h.received]
      cases db.ingestBatches.get? id with
      | none => rfl
      | some row =>
        rw [Option.map_some, Option.filter_some, Option.filter_some]
        by_cases hold : row.receivedAt < before
        · simp [hold]
        · simp [hold]
    · intro id hid
      obtain ⟨t, ht⟩ := Dict.mem_keys_iff.mp hid
      rw [Dict.get?_filter, Option.filter_eq_some_iff] at ht
      exact h.remembered id (Dict.mem_keys_iff.mpr ⟨t, ht.1⟩)

end steps

/-! ### A sequence of calls -/

/-- The fresh stores match. -/
theorem Matches.fresh (clusterId : String) :
    Matches clusterId [] .empty (.new clusterId) Database.empty where
  cluster := rfl
  nodes := fun _ => rfl
  buckets := ⟨fun _ => rfl, fun _ hpk => nomatch hpk⟩
  batches := fun _ => Iff.rfl
  received := fun _ => rfl
  remembered := fun _ hid => nomatch hid

/-- PostgreSQL answers every sequence of calls. -/
theorem answersAll_exists (db : Database) (calls : List Call) :
    ∃ db' replies, AnswersAll db calls db' replies := by
  induction calls generalizing db with
  | nil => exact ⟨db, [], .nil⟩
  | cons c cs ih =>
    obtain ⟨db₁, r, hstep⟩ : ∃ db₁ r, Answers db c db₁ r := by
      cases c with
      | ingest batch receivedAt =>
        cases hres : db.ingestBatch batch receivedAt with
        | error error => exact ⟨db, _, .failed hres⟩
        | ok result => exact ⟨result.1, _, .ingested hres⟩
      | purge before =>
        obtain ⟨db₁, stats, hpurge⟩ := Database.purgesExpired_exists before db
        exact ⟨db₁, _, .purged hpurge⟩
    obtain ⟨db₂, rs, hrest⟩ := ih db₁
    exact ⟨db₂, r :: rs, .cons hstep hrest⟩

/-- **A run keeps the match**, and every call gets the same reply. -/
theorem Matches.answersAll {clusterId : String} {seen : List String} {kept : Dict String Datetime}
    {repo : InMemoryRepository} {db db' : Database} {calls : List Call} {replies : List Reply}
    (h : Matches clusterId seen kept repo db)
    (hcluster : ∀ batch ∈ Call.batches calls, batch.clusterId = clusterId)
    (hagree : ∀ batch ∈ Call.batches calls, NodeRefsAgree batch.nodeRefs)
    (hfit : SumsFit repo calls) (hkept : ReplaysKept seen kept calls)
    (hrun : AnswersAll db calls db' replies) :
    replies = (repo.calls calls).2 ∧
    ∃ seen' kept', Matches clusterId seen' kept' (repo.calls calls).1 db' := by
  induction hrun generalizing seen kept repo with
  | nil => exact ⟨rfl, seen, kept, h⟩
  | @cons db db₁ db₂ c cs r rs hstep _ ih =>
    cases c with
    | ingest batch receivedAt =>
      have hbatches : Call.batches (.ingest batch receivedAt :: cs) =
        batch :: Call.batches cs := rfl
      rw [hbatches] at hcluster hagree
      have hc := hcluster batch List.mem_cons_self
      cases hstep with
      | failed herror =>
        obtain ⟨db', outcome, hok⟩ := h.ingest_ok receivedAt hc hkept.1 hfit.1
        rw [hok] at herror
        cases herror
      | ingested hok =>
        obtain ⟨houtcome, hmatch⟩ := h.ingest hc (hagree batch List.mem_cons_self) hkept.1
          (Database.ingests_of_ok hok)
        obtain ⟨hreplies, hend⟩ := ih hmatch
          (fun b hb => hcluster b (List.mem_cons_of_mem _ hb))
          (fun b hb => hagree b (List.mem_cons_of_mem _ hb)) hfit.2 hkept.2
        rw [houtcome, hreplies]
        exact ⟨rfl, hend⟩
    | purge before =>
      cases hstep with
      | purged hpurge =>
        obtain ⟨hstats, hmatch⟩ := h.purge hpurge
        obtain ⟨hreplies, hend⟩ := ih hmatch hcluster hagree hfit.2 hkept
        rw [hstats, hreplies]
        exact ⟨rfl, hend⟩

/-- **Refinement**: after any sequence of calls PostgreSQL has given the replies of the
    in-memory repository, and answers every question as it does: the edges of every window and
    filter without a text query, the non-empty namespaces, and the known nodes. The reports of
    one batch have to agree on a node; those of different batches need not. -/
theorem postgres_refines_memory (lower : Database.Lowering) (casefold : String → String)
    (clusterId : String) (calls : List Call)
    (hcluster : ∀ batch ∈ Call.batches calls, batch.clusterId = clusterId)
    (hagree : ∀ batch ∈ Call.batches calls, NodeRefsAgree batch.nodeRefs)
    (hfit : SumsFit (.new clusterId) calls) (hkept : ReplaysKept [] .empty calls) :
    let run := (InMemoryRepository.new clusterId).calls calls
    (∃ db replies, AnswersAll Database.empty calls db replies) ∧
    ∀ db replies, AnswersAll Database.empty calls db replies →
      replies = run.2 ∧
      (∀ window filters, filters.QueryUnset →
        (∀ a ∈ run.1.queryEdges casefold window filters, Database.AnswerInRange a) →
        db.queryEdges lower clusterId window filters =
          .ok (run.1.queryEdges casefold window filters)) ∧
      (∀ window, (db.listNamespaces clusterId window).filter (fun ns => ns ≠ "") =
        run.1.listNamespaces casefold window) ∧
      ∀ nodeIds, (db.nodesFor nodeIds).Perm (run.1.nodesFor nodeIds) := by
  intro run
  refine ⟨answersAll_exists Database.empty calls, ?_⟩
  intro db replies hrun
  obtain ⟨hreplies, seen, kept, hmatch⟩ :=
    (Matches.fresh clusterId).answersAll hcluster hagree hfit hkept hrun
  refine ⟨hreplies, ?_, ?_, hmatch.nodesFor⟩
  · intro window filters hquery hrange
    exact hmatch.queryEdges lower casefold window hquery hrange
  · intro window
    exact (hmatch.listNamespaces casefold window).symm

/-! ### A small history -/

/-- Two batches of the first minute, the first of them twice, one of the next, and a purge of
    the first minute. -/
def sampleCalls : List Call :=
  [.ingest sampleBatchA 60001000, .ingest sampleBatchB 60002000, .ingest sampleBatchA 60003000,
    .ingest sampleBatchC 60004000, .purge 60000000]

/-- The replies, and what is left of it, are the same in both adapters. -/
theorem postgres_refines_memory_sample :
    (∃ db replies, AnswersAll Database.empty sampleCalls db replies) ∧
    ∀ db replies, AnswersAll Database.empty sampleCalls db replies →
      replies = [.outcome .ingested, .outcome .ingested, .outcome .alreadyIngested,
        .outcome .ingested, .purged ⟨1, 0⟩] ∧
      ∃ answer, db.queryEdges ⟨id, id⟩ "c" ⟨0, 120000000⟩ {} = .ok answer ∧
        answer.map EdgeAggregate.connectionCount = [1] := by
  obtain ⟨hexists, hall⟩ := postgres_refines_memory ⟨id, id⟩ id "c" sampleCalls
    (by decide +kernel) (by decide +kernel)
    ⟨by decide +kernel, by decide +kernel, by decide +kernel, by decide +kernel,
      by decide +kernel, trivial⟩
    ⟨by decide +kernel, by decide +kernel, by decide +kernel, by decide +kernel, trivial⟩
  refine ⟨hexists, ?_⟩
  intro db replies hrun
  obtain ⟨hreplies, hquery, -⟩ := hall db replies hrun
  refine ⟨hreplies.trans (by decide +kernel), _,
    hquery ⟨0, 120000000⟩ {} (Or.inl rfl) (by decide +kernel), by decide +kernel⟩

end TopologyVisualizer.Backend
