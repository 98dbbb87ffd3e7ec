import TopologyVisualizer.Framework.LTS
import TopologyVisualizer.Backend.PostgresIngest
import TopologyVisualizer.Backend.PostgresQuery
import TopologyVisualizer.Backend.PostgresPurge

/-! # Retention and the Batch Gate

    A purge forgets batch ids, and an id that is forgotten can be ingested
    again. Its statements commit one by one, so a purge can also stop half
    way. This module runs the repository as a transition system whose steps
    are the committed statements, with a crash possible after each of them.

    The proof keeps a ledger of what the buckets hold, batch by batch
    (`Books`): a batch is in it at most once, and only while its row is in
    `ingest_batches`. A row is deleted after the buckets: an observation of
    the batch lies in a bucket that starts no later than it was seen, it was
    seen no later than the batch was received, and that is before the cutoff
    (`Books.swept`). So a forgotten batch has nothing left to be counted
    twice (`observations_counted_once`).
-/

open LTS

namespace TopologyVisualizer.Backend.Retention

open Postgres

/-! ### State -/

/-- How far a `purge_expired` call has come. -/
inductive Purging where
  /-- No call is running. -/
  | idle
  /-- In the loop of bounded deletes. -/
  | deleting (before : Datetime)
  /-- The loop has ended, the orphans are next. -/
  | sweeping (before : Datetime)
  /-- The batch rows are next. -/
  | forgetting (before : Datetime)
  deriving DecidableEq

/-- The cutoff of the running call. -/
def Purging.cutoff : Purging → Option Datetime
  | .idle => none
  | .deleting before => some before
  | .sweeping before => some before
  | .forgetting before => some before

/-- The cutoff up to which the loop has emptied `edge_buckets`. -/
def Purging.swept : Purging → Option Datetime
  | .idle => none
  | .deleting _ => none
  | .sweeping before => some before
  | .forgetting before => some before

structure State where
  db : Database
  purging : Purging

/-! ### Labels -/

inductive Label where
  /-- A call of `ingest_batch`, whose transaction commits or rolls back. -/
  | ingest (batch : IngestBatch) (receivedAt : Datetime)
  /-- `purge_expired(before)` is called. -/
  | purge (before : Datetime)
  /-- One bounded delete of expired buckets. -/
  | deleteBuckets (chosen : List BucketPk)
  /-- The DELETE of the orphaned nodes. -/
  | deleteOrphans
  /-- The DELETE of the batch rows, after which the call returns. -/
  | deleteBatches
  /-- The process stops; what was committed stays. -/
  | crash

/-! ### The system -/

/-- The loop goes on after a full batch. -/
def afterDelete (before : Datetime) (chosen : List BucketPk) : Purging :=
  if chosen.length < Database.purgeBatch then .sweeping before else .deleting before

/-- The repository, statement by statement. No edge is received before it was seen. A batch
    may also be ingested between the statements of a purge whose cutoff is not ahead of the
    clock. -/
def system : System State Label where
  init := fun s => s = ⟨Database.empty, .idle⟩
  step := fun s l s' =>
    match l with
    | .ingest batch receivedAt =>
        (∀ e ∈ batch.edges, e.lastSeen ≤ receivedAt) ∧
        (∀ before, s.purging.cutoff = some before → before ≤ receivedAt) ∧
        s' = { s with db := s.db.committed batch receivedAt }
    | .purge before =>
        s.purging = .idle ∧ s' = { s with purging := .deleting before }
    | .deleteBuckets chosen =>
        ∃ before db', s.purging = .deleting before ∧
          Database.DeletesExpired before s.db chosen db' ∧
          s' = ⟨db', afterDelete before chosen⟩
    | .deleteOrphans =>
        ∃ before, s.purging = .sweeping before ∧
          s' = ⟨s.db.deleteOrphans.1, .forgetting before⟩
    | .deleteBatches =>
        ∃ before, s.purging = .forgetting before ∧
          s' = ⟨s.db.deleteBatches before, .idle⟩
    | .crash => s' = { s with purging := .idle }

/-! ### The ledger -/

/-- What is left in the buckets of one ingested batch. -/
structure Entry where
  batch : IngestBatch
  receivedAt : Datetime
  edges : List EdgeObservation

/-- What these observations file in `edge_buckets`. -/
def filed (clusterId : String) (edges : List EdgeObservation) : List (BucketPk × Bucket) :=
  edges.map (fun e => (Database.pkOf clusterId e, Bucket.ofEdge e))

def Entry.filed (x : Entry) : List (BucketPk × Bucket) :=
  Retention.filed x.batch.clusterId x.edges

/-- The entry after the rows `chosen` were deleted. -/
def Entry.without (chosen : List BucketPk) (x : Entry) : Entry :=
  { x with edges := x.edges.filter (fun e => Database.pkOf x.batch.clusterId e ∉ chosen) }

/-- The ledger accounts for the buckets, and each batch in it is still known. -/
structure Books (s : State) (labels : List Label) (ledger : List Entry) : Prop where
  ids : (ledger.map (fun x => x.batch.batchId)).Nodup
  known : ∀ x ∈ ledger, s.db.ingestBatches.get? x.batch.batchId =
    some (Database.batchRow x.batch x.receivedAt)
  sent : ∀ x ∈ ledger, Label.ingest x.batch x.receivedAt ∈ labels
  parts : ∀ x ∈ ledger, x.edges.Sublist x.batch.edges
  timely : ∀ x ∈ ledger, ∀ e ∈ x.edges, e.lastSeen ≤ x.receivedAt
  stored : ∀ pk, s.db.edgeBuckets.total pk = keyedSum (ledger.flatMap Entry.filed) pk
  /-- Behind the loop, a batch received before the cutoff has nothing left. -/
  swept : ∀ before, s.purging.swept = some before →
    ∀ x ∈ ledger, x.receivedAt < before → x.edges = []

/-- An observation in the ledger has its bucket. -/
theorem Books.stored_key {s : State} {labels : List Label} {ledger : List Entry}
    (h : Books s labels ledger) {x : Entry} (hx : x ∈ ledger) {e : EdgeObservation}
    (he : e ∈ x.edges) : Database.pkOf x.batch.clusterId e ∈ s.db.edgeBuckets.keys := by
  have hfiled : Database.pkOf x.batch.clusterId e ∈ (ledger.flatMap Entry.filed).map Prod.fst := by
    refine List.mem_map.mpr ⟨(Database.pkOf x.batch.clusterId e, Bucket.ofEdge e), ?_, rfl⟩
    exact List.mem_flatMap.mpr ⟨x, hx, List.mem_map_of_mem he⟩
  have hne : s.db.edgeBuckets.total (Database.pkOf x.batch.clusterId e) ≠ 0 := by
    rw [h.stored]
    exact fun hzero => keyedSum_eq_zero_iff.mp hzero hfiled
  by_contra hnot
  exact hne (Dict.get?_eq_none_iff.mpr hnot)

/-- Deleting rows takes the observations filed there out of the ledger. -/
theorem flatMap_without (chosen : List BucketPk) (ledger : List Entry) :
    (ledger.map (Entry.without chosen)).flatMap Entry.filed =
      (ledger.flatMap Entry.filed).filter (fun x => x.1 ∉ chosen) := by
  rw [List.flatMap_map, List.filter_flatMap]
  congr 1
  funext x
  show Retention.filed _ (x.edges.filter _) = (Retention.filed _ x.edges).filter _
  unfold Retention.filed
  rw [List.filter_map]
  rfl

/-! ### One step -/

section steps
variable {s : State} {labels : List Label} {ledger : List Entry}

/-- What is known of the books when nothing of the database changes. -/
theorem Books.of_same (h : Books s labels ledger) {l : Label} {purging : Purging}
    (hswept : ∀ before, purging.swept = some before → s.purging.swept = some before) :
    Books ⟨s.db, purging⟩ (labels ++ [l]) ledger where
  ids := h.ids
  known := h.known
  sent := fun x hx => List.mem_append_left _ (h.sent x hx)
  parts := h.parts
  timely := h.timely
  stored := h.stored
  swept := fun before hbefore => h.swept before (hswept before hbefore)

/-- A batch that is let in is entered whole. -/
theorem Books.ingest (h : Books s labels ledger) {batch : IngestBatch} {receivedAt : Datetime}
    (htimely : ∀ e ∈ batch.edges, e.lastSeen ≤ receivedAt)
    (hcutoff : ∀ before, s.purging.cutoff = some before → before ≤ receivedAt) :
    ∃ ledger', Books { s with db := s.db.committed batch receivedAt }
      (labels ++ [.ingest batch receivedAt]) ledger' := by
  unfold Database.committed
  cases hres : s.db.ingestBatch batch receivedAt with
  | error error => exact ⟨ledger, h.of_same (fun _ hb => hb)⟩
  | ok result =>
    obtain ⟨db', outcome⟩ := result
    cases Database.ingests_of_ok hres with
    | known _ => exact ⟨ledger, h.of_same (fun _ hb => hb)⟩
    | fresh hnew hrows hnodes hbuckets =>
      have hnone : s.db.ingestBatches.get? batch.batchId = none := by
        unfold Dict.contains at hnew
        exact Option.isSome_eq_false_iff.mp hnew |> Option.isNone_iff_eq_none.mp
      -- no entry has this id, since every entry is known
      have hfresh : ∀ x ∈ ledger, x.batch.batchId ≠ batch.batchId := by
        intro x hx heq
        have hknown := h.known x hx
        rw [heq, hnone] at hknown
        cases hknown
      refine ⟨⟨batch, receivedAt, batch.edges⟩ :: ledger, ?_⟩
      constructor
      · rw [List.map_cons, List.nodup_cons]
        refine ⟨?_, h.ids⟩
        intro hmem
        obtain ⟨x, hx, heq⟩ := List.mem_map.mp hmem
        exact hfresh x hx heq
      · intro x hx
        show db'.ingestBatches.get? x.batch.batchId = _
        rw [hrows]
        rcases List.mem_cons.mp hx with rfl | hx
        · exact Dict.get?_set_self _ _ _
        · rw [Dict.get?_set_ne _ _ (hfresh x hx)]
          exact h.known x hx
      · intro x hx
        rcases List.mem_cons.mp hx with rfl | hx
        · exact List.mem_append_right _ List.mem_cons_self
        · exact List.mem_append_left _ (h.sent x hx)
      · intro x hx
        rcases List.mem_cons.mp hx with rfl | hx
        · exact List.Sublist.refl _
        · exact h.parts x hx
      · intro x hx
        rcases List.mem_cons.mp hx with rfl | hx
        · exact htimely
        · exact h.timely x hx
      · intro pk
        show db'.edgeBuckets.total pk = _
        rw [hbuckets, Dict.total_sumInto, h.stored, List.flatMap_cons, keyedSum_append, add_comm]
        rfl
      · intro before hbefore x hx hold
        rcases List.mem_cons.mp hx with rfl | hx
        · -- a purge beside this call has a cutoff that is not ahead of it
          have hcut : s.purging.cutoff = some before := by
            cases hp : s.purging with
            | idle => rw [hp] at hbefore; cases hbefore
            | deleting _ => rw [hp] at hbefore; cases hbefore
            | sweeping _ => rw [hp] at hbefore; exact hbefore
            | forgetting _ => rw [hp] at hbefore; exact hbefore
          exact absurd hold (not_lt.mpr (hcutoff before hcut))
        · exact h.swept before hbefore x hx hold

/-- A bounded delete takes its rows out of the books; the last one leaves nothing that was
    received before the cutoff. -/
theorem Books.deleteBuckets (h : Books s labels ledger) {before : Datetime} {db' : Database}
    {chosen : List BucketPk} (hdel : Database.DeletesExpired before s.db chosen db') {l : Label} :
    Books ⟨db', afterDelete before chosen⟩ (labels ++ [l]) (ledger.map (Entry.without chosen)) := by
  have hmem : ∀ y ∈ ledger.map (Entry.without chosen), ∃ x ∈ ledger, y = x.without chosen := by
    intro y hy
    obtain ⟨x, hx, rfl⟩ := List.mem_map.mp hy
    exact ⟨x, hx, rfl⟩
  constructor
  · rw [List.map_map]
    exact h.ids
  · intro y hy
    obtain ⟨x, hx, rfl⟩ := hmem y hy
    show db'.ingestBatches.get? x.batch.batchId = _
    rw [hdel.result]
    exact h.known x hx
  · intro y hy
    obtain ⟨x, hx, rfl⟩ := hmem y hy
    exact List.mem_append_left _ (h.sent x hx)
  · intro y hy
    obtain ⟨x, hx, rfl⟩ := hmem y hy
    exact List.filter_sublist.trans (h.parts x hx)
  · intro y hy e he
    obtain ⟨x, hx, rfl⟩ := hmem y hy
    exact h.timely x hx e (List.mem_filter.mp he).1
  · intro pk
    show db'.edgeBuckets.total pk = _
    rw [hdel.result, Database.deleteBuckets_edgeBuckets, Dict.total_filter_key, flatMap_without,
      keyedSum_filter_key (fun pk => decide (pk ∉ chosen)), h.stored]
  · intro cut hcut y hy hold
    obtain ⟨x, hx, rfl⟩ := hmem y hy
    unfold afterDelete at hcut
    split at hcut
    · next hlt =>
      cases hcut
      show x.edges.filter _ = []
      rw [List.filter_eq_nil_iff]
      intro e he
      -- its bucket starts before the cutoff, and the last delete found every such row
      have hstart : bucketStart e.lastSeen < before :=
        lt_of_le_of_lt (bucketStart_le e.lastSeen) (lt_of_le_of_lt (h.timely x hx e he) hold)
      have hexpired : Database.pkOf x.batch.clusterId e ∈ s.db.expired before :=
        Database.mem_expired.mpr ⟨h.stored_key hx he, hstart⟩
      have hchosen := hdel.all_of_lt hlt hexpired
      simp [hchosen]
    · cases hcut

/-- The orphan DELETE removes no bucket. -/
theorem Books.deleteOrphans (h : Books s labels ledger) {before : Datetime}
    (hpurging : s.purging = .sweeping before) {l : Label} :
    Books ⟨s.db.deleteOrphans.1, .forgetting before⟩ (labels ++ [l]) ledger := by
  obtain ⟨-, hb, hi⟩ := s.db.deleteOrphans_spec
  constructor
  · exact h.ids
  · intro x hx
    rw [hi]
    exact h.known x hx
  · exact fun x hx => List.mem_append_left _ (h.sent x hx)
  · exact h.parts
  · exact h.timely
  · intro pk
    rw [hb]
    exact h.stored pk
  · intro cut hcut
    cases hcut
    exact h.swept before (by rw [hpurging]; rfl)

/-- Forgetting the rows received before the cutoff forgets batches that have nothing left. -/
theorem Books.deleteBatches (h : Books s labels ledger) {before : Datetime}
    (hpurging : s.purging = .forgetting before) {l : Label} :
    Books ⟨s.db.deleteBatches before, .idle⟩ (labels ++ [l])
      (ledger.filter (fun x => !decide (x.receivedAt < before))) := by
  have hswept := h.swept before (by rw [hpurging]; rfl)
  constructor
  · exact h.ids.sublist (List.filter_sublist.map _)
  · intro x hx
    obtain ⟨hx, hkeep⟩ := List.mem_filter.mp hx
    rw [Database.deleteBatches_ingestBatches, Dict.get?_filter, h.known x hx,
      Option.filter_some, if_pos]
    exact hkeep
  · intro x hx
    exact List.mem_append_left _ (h.sent x (List.mem_filter.mp hx).1)
  · exact fun x hx => h.parts x (List.mem_filter.mp hx).1
  · exact fun x hx => h.timely x (List.mem_filter.mp hx).1
  · intro pk
    rw [Database.deleteBatches_edgeBuckets, h.stored]
    congr 1
    -- the entries that go have filed nothing that is left
    clear h
    induction ledger with
    | nil => rfl
    | cons x ledger ih =>
      have ih' := ih (fun y hy => hswept y (List.mem_cons_of_mem _ hy))
      by_cases hold : x.receivedAt < before
      · have hnone : x.filed = [] := by
          unfold Entry.filed Retention.filed
          rw [hswept x List.mem_cons_self hold]
          rfl
        rw [List.flatMap_cons, hnone, List.nil_append, ih', List.filter_cons_of_neg]
        simp [hold]
      · rw [List.flatMap_cons, ih', List.filter_cons_of_pos, List.flatMap_cons]
        simpa using hold
  · intro cut hcut
    cases hcut

end steps

/-! ### Runs -/

/-- Books can be kept along every run. -/
theorem books_of_run {s : State} {labels : List Label} {s₀ : State} (hinit : system.init s₀)
    (hrun : Run system s₀ labels s) : ∃ ledger, Books s labels ledger := by
  refine System.trace_invariant (fun s labels => ∃ ledger, Books s labels ledger) ?_ ?_ hinit hrun
  · rintro s rfl
    refine ⟨[], List.nodup_nil, ?_, ?_, ?_, ?_, fun _ => rfl, ?_⟩ <;> intro x hx <;> cases hx
  · intro s labels l s' ⟨ledger, h⟩ hstep
    cases l with
    | ingest batch receivedAt =>
      obtain ⟨htimely, hcutoff, rfl⟩ := hstep
      exact h.ingest htimely hcutoff
    | purge before =>
      obtain ⟨-, rfl⟩ := hstep
      exact ⟨ledger, h.of_same (fun _ hb => nomatch hb)⟩
    | deleteBuckets chosen =>
      obtain ⟨before, db', -, hdel, rfl⟩ := hstep
      exact ⟨_, h.deleteBuckets hdel⟩
    | deleteOrphans =>
      obtain ⟨before, hpurging, rfl⟩ := hstep
      exact ⟨_, h.deleteOrphans hpurging⟩
    | deleteBatches =>
      obtain ⟨before, hpurging, rfl⟩ := hstep
      exact ⟨_, h.deleteBatches hpurging⟩
    | crash =>
      cases hstep
      exact ⟨ledger, h.of_same (fun _ hb => nomatch hb)⟩

/-- **Idempotency survives retention**: in every state of every run, what a query answers is
    made of parts of ingested batches, each batch id at most once, and of a batch each
    observation at most once. -/
theorem observations_counted_once {s₀ s : State} {labels : List Label} (hinit : system.init s₀)
    (hrun : Run system s₀ labels s) :
    ∃ counted : List (IngestBatch × List EdgeObservation),
      (counted.map (fun c => c.1.batchId)).Nodup ∧
      (∀ c ∈ counted, (∃ receivedAt, Label.ingest c.1 receivedAt ∈ labels) ∧
        c.2.Sublist c.1.edges) ∧
      ∀ lower clusterId window filters answer,
        s.db.queryEdges lower clusterId window filters = .ok answer →
        answer = answerOf (regroup (s.db.accepts lower clusterId window filters)
          (counted.flatMap (fun c => filed c.1.clusterId c.2))) := by
  obtain ⟨ledger, h⟩ := books_of_run hinit hrun
  refine ⟨ledger.map (fun x => (x.batch, x.edges)), ?_, ?_, ?_⟩
  · rw [List.map_map]
    exact h.ids
  · intro c hc
    obtain ⟨x, hx, rfl⟩ := List.mem_map.mp hc
    exact ⟨⟨x.receivedAt, h.sent x hx⟩, h.parts x hx⟩
  · intro lower clusterId window filters answer hanswer
    rw [Database.queryEdges_of_ok hanswer, List.flatMap_map]
    apply answerOf_congr
    apply keyedSum_regroup
    intro pk
    rw [Dict.keyedSum_entries, h.stored]
    rfl

/-! ### A replay after its row was purged -/

/-- The database after the batch was ingested, purged away and ingested again. -/
def sampleReplayed : Database :=
  ((((Database.empty.committed sampleBatchA 5000).deleteBuckets
    [Database.pkOf "c" sampleEdgeA]).deleteOrphans.1).deleteBatches
      10000).committed sampleBatchA 20000

/-- Ingested, purged with its row, and replayed: the three connections are counted once. -/
theorem observations_counted_once_replayed :
    ∃ labels, Run system ⟨Database.empty, .idle⟩ labels ⟨sampleReplayed, .idle⟩ ∧
      labels.length = 6 ∧
      (∃ answer, sampleReplayed.queryEdges ⟨id, id⟩ "c" ⟨0, 60000000⟩ {} = .ok answer ∧
        answer.map EdgeAggregate.connectionCount = [3]) ∧
      ∃ counted : List (IngestBatch × List EdgeObservation),
        (counted.map (fun c => c.1.batchId)).Nodup ∧
        ∀ c ∈ counted, (∃ receivedAt, Label.ingest c.1 receivedAt ∈ labels) ∧
          c.2.Sublist c.1.edges := by
  have hseen : ∀ receivedAt : Datetime, 1000 ≤ receivedAt →
      ∀ e ∈ sampleBatchA.edges, e.lastSeen ≤ receivedAt := by
    intro receivedAt hle e he
    obtain rfl := List.mem_singleton.mp he
    exact hle
  have h₀ : Run system ⟨Database.empty, .idle⟩ [] ⟨Database.empty, .idle⟩ := .nil _
  have h₁ := h₀.snoc (l := Label.ingest sampleBatchA 5000)
    ⟨hseen 5000 (by decide), nofun, rfl⟩
  have h₂ := h₁.snoc (l := Label.purge 10000) ⟨rfl, rfl⟩
  have h₃ := h₂.snoc
    (l := Label.deleteBuckets [Database.pkOf "c" sampleEdgeA])
    ⟨10000, _, rfl, ⟨by decide +kernel, by decide +kernel, by decide +kernel, rfl⟩, rfl⟩
  have h₄ := h₃.snoc (l := Label.deleteOrphans) ⟨10000, rfl, rfl⟩
  have h₅ := h₄.snoc (l := Label.deleteBatches) ⟨10000, rfl, rfl⟩
  have h₆ := h₅.snoc (l := Label.ingest sampleBatchA 20000)
    ⟨hseen 20000 (by decide), nofun, rfl⟩
  obtain ⟨counted, hids, hparts, -⟩ := observations_counted_once rfl h₆
  refine ⟨_, h₆, rfl, ?_, counted, hids, hparts⟩
  have hquery : sampleReplayed.queryEdges ⟨id, id⟩ "c" ⟨0, 60000000⟩ {} =
      .ok [⟨sampleEdgeA.key, 3, 1000, 1000, none, 0, 0, none, none⟩] := by
    decide +kernel
  exact ⟨_, hquery, rfl⟩

end TopologyVisualizer.Backend.Retention
