import TopologyVisualizer.Framework.LTS
import TopologyVisualizer.Backend.PostgresIngest
import TopologyVisualizer.Backend.PostgresPurge

/-! # A Purge Beside Ingest Transactions

    `purge_expired(before)` while any number of `ingest_batch` transactions
    run, under READ COMMITTED. `db` is the committed state. A transaction
    takes the row lock of each of its nodes, in the order of the ids, and
    holds them until it commits; only then are its writes seen. As it holds
    the locks of both endpoints of every bucket it writes, nothing else
    changes these rows in between, and its commit applies `ingestBatch` to
    the committed state.

    The orphan DELETE is not one step. It chooses its rows by the snapshot
    taken at its start, waits for a row that a transaction has locked, and
    then decides again on the new version of the row, but still by the same
    snapshot of `edge_buckets`: the row goes. The cascade at the end of the
    statement sees what was committed by then.

    So a transaction that commits a fresh bucket on an orphan between the
    snapshot and the end loses it (`fresh_bucket_destroyed`). When no
    transaction does that, everything at or after the cutoff is kept
    (`live_data_kept`).
-/

open LTS

namespace TopologyVisualizer.Backend.PurgeRace

open Postgres

/-! ### State -/

/-- An open `ingest_batch` transaction that has passed the batch gate. -/
structure Txn where
  batch : IngestBatch
  receivedAt : Datetime
  /-- The nodes it has upserted, whose row locks it holds. -/
  locked : List String

/-- How far `purge_expired` has come. -/
inductive Purging where
  | idle
  /-- In the loop of bounded deletes. -/
  | deleting
  /-- The loop has ended, the orphan DELETE is next. -/
  | emptied
  /-- Inside the orphan DELETE: the rows its snapshot chose that it has still to delete, and
      those it has deleted and not yet committed. -/
  | sweeping (todo deleted : List String)
  /-- The batch rows are next. -/
  | forgetting
  /-- The call has returned. -/
  | done
  /-- The orphan DELETE was the victim of a deadlock, and the call raised. -/
  | failed

def Purging.todo : Purging → List String
  | .sweeping todo _ => todo
  | _ => []

def Purging.deleted : Purging → List String
  | .sweeping _ deleted => deleted
  | _ => []

structure State where
  db : Database
  active : List Txn
  purging : Purging
  /-- History: the rows there at the start, and what transactions have committed since. -/
  filed : List (BucketPk × Bucket)

/-! ### Labels -/

inductive Label where
  /-- A transaction opens and inserts its batch row. -/
  | begin (batch : IngestBatch) (receivedAt : Datetime)
  /-- The transaction upserts its next node. -/
  | upsertNode (i : Nat)
  | commit (i : Nat)
  | rollback (i : Nat)
  /-- `purge_expired` is called. -/
  | purge
  /-- One bounded delete of expired buckets. -/
  | deleteBuckets (chosen : List BucketPk)
  /-- The orphan DELETE takes its snapshot. -/
  | snapshot
  /-- It deletes one of the rows it chose. -/
  | deleteNode (nid : String)
  /-- It ends: the cascade runs, and the statement commits. -/
  | endStatement
  | deadlock
  | deleteBatches

/-! ### The system -/

/-- The nodes of a batch, in the order of the statements. -/
def nodeIds (batch : IngestBatch) : List String :=
  sortOn id (Database.collectNodes batch.edges).keys

/-- The purge and the transactions, interleaved. A bounded delete skips a row that a
    transaction is changing, since its `ctid` changes, so it may find fewer rows than there
    are. -/
def system (before : Datetime) : System State Label where
  init := fun s =>
    s.active = [] ∧ s.purging = .idle ∧ s.filed = s.db.edgeBuckets.entries
  step := fun s l s' =>
    match l with
    | .begin batch receivedAt =>
        s.db.ingestBatches.contains batch.batchId = false ∧
        (∀ t ∈ s.active, t.batch.batchId ≠ batch.batchId) ∧
        s' = { s with active := s.active ++ [⟨batch, receivedAt, []⟩] }
    | .upsertNode i =>
        ∃ t nid, s.active[i]? = some t ∧
          (nodeIds t.batch)[t.locked.length]? = some nid ∧
          (∀ u ∈ s.active, nid ∉ u.locked) ∧ nid ∉ s.purging.deleted ∧
          s' = { s with active := s.active.set i { t with locked := t.locked ++ [nid] } }
    | .commit i =>
        ∃ t db', s.active[i]? = some t ∧ t.locked = nodeIds t.batch ∧
          s.db.ingestBatch t.batch t.receivedAt = .ok (db', .ingested) ∧
          s' = { s with
            db := db'
            active := s.active.eraseIdx i
            filed := s.filed ++ Database.contributions t.batch }
    | .rollback i =>
        i < s.active.length ∧ s' = { s with active := s.active.eraseIdx i }
    | .purge =>
        s.purging = .idle ∧ s' = { s with purging := .deleting }
    | .deleteBuckets chosen =>
        s.purging = .deleting ∧ chosen.Nodup ∧ (∀ pk ∈ chosen, pk ∈ s.db.expired before) ∧
        chosen.length ≤ Database.purgeBatch ∧
        s' = { s with
          db := s.db.deleteBuckets chosen
          purging := if chosen.length < Database.purgeBatch then .emptied else .deleting }
    | .snapshot =>
        s.purging = .emptied ∧ s' = { s with purging := .sweeping s.db.orphans [] }
    | .deleteNode nid =>
        ∃ todo deleted, s.purging = .sweeping todo deleted ∧ nid ∈ todo ∧
          (∀ t ∈ s.active, nid ∉ t.locked) ∧
          s' = { s with purging := .sweeping (todo.erase nid) (nid :: deleted) }
    | .endStatement =>
        ∃ deleted, s.purging = .sweeping [] deleted ∧
          s' = { s with
            db := deleted.foldl Database.deleteNode s.db
            purging := .forgetting }
    | .deadlock =>
        ∃ todo deleted, s.purging = .sweeping todo deleted ∧ s' = { s with purging := .failed }
    | .deleteBatches =>
        s.purging = .forgetting ∧
        s' = { s with db := s.db.deleteBatches before, purging := .done }

/-! ### What is kept -/

/-- Every bucket at or after the cutoff that was there or was committed is there, with all
    that was filed in it. -/
def State.Intact (before : Datetime) (s : State) : Prop :=
  ∀ pk ∈ s.filed.map Prod.fst, before ≤ pk.bucketStart →
    pk ∈ s.db.edgeBuckets.keys ∧ s.db.edgeBuckets.total pk = keyedSum s.filed pk

/-- No transaction commits an observation at or after the cutoff on a node that the running
    orphan DELETE has chosen and not yet deleted. -/
def Undisturbed (before : Datetime) (s : State) : Label → Prop
  | .commit i => ∀ t, s.active[i]? = some t → ∀ e ∈ t.batch.edges,
      before ≤ bucketStart e.lastSeen →
      e.source.id ∉ s.purging.todo ∧ e.target.id ∉ s.purging.todo
  | _ => True

/-- What an undisturbed run keeps. -/
structure Inv (before : Datetime) (s : State) : Prop where
  totals : ∀ pk, before ≤ pk.bucketStart →
    s.db.edgeBuckets.total pk = keyedSum s.filed pk
  /-- A transaction waits for a row that the statement has deleted. -/
  locks : ∀ t ∈ s.active, ∀ nid ∈ t.locked, nid ∉ s.purging.deleted
  /-- The rows that go have no bucket at or after the cutoff. -/
  clear : ∀ nid, nid ∈ s.purging.todo ∨ nid ∈ s.purging.deleted →
    ∀ pk ∈ s.db.edgeBuckets.keys, before ≤ pk.bucketStart → pk.mentions nid = false

theorem Inv.intact {before : Datetime} {s : State} (h : Inv before s) : s.Intact before := by
  intro pk hpk hstart
  have htotal := h.totals pk hstart
  refine ⟨?_, htotal⟩
  by_contra hnot
  have hzero : s.db.edgeBuckets.total pk = 0 := Dict.get?_eq_none_iff.mpr hnot
  rw [htotal] at hzero
  exact keyedSum_eq_zero_iff.mp hzero hpk

/-! ### One step -/

section steps
variable {before : Datetime} {s : State}

/-- Outside the orphan DELETE only the totals matter. -/
theorem Inv.outside
    (htotals : ∀ pk, before ≤ pk.bucketStart →
      s.db.edgeBuckets.total pk = keyedSum s.filed pk)
    (htodo : s.purging.todo = []) (hdeleted : s.purging.deleted = []) : Inv before s where
  totals := htotals
  locks := by
    intro t _ nid _ hin
    rw [hdeleted] at hin
    cases hin
  clear := by
    rintro nid (hin | hin)
    · rw [htodo] at hin
      cases hin
    · rw [hdeleted] at hin
      cases hin

/-- A commit adds buckets on locked nodes, none of which is on its way out. -/
theorem Inv.commit (h : Inv before s) {i : Nat} {t : Txn} {db' : Database}
    (ht : s.active[i]? = some t) (hlocked : t.locked = nodeIds t.batch)
    (hok : s.db.ingestBatch t.batch t.receivedAt = .ok (db', .ingested))
    (hquiet : Undisturbed before s (.commit i)) :
    Inv before { s with
      db := db'
      active := s.active.eraseIdx i
      filed := s.filed ++ Database.contributions t.batch } := by
  have hmem : t ∈ s.active := List.mem_of_getElem? ht
  cases Database.ingests_of_ok hok with
  | fresh hnew hrows hnodes hbuckets =>
    constructor
    · intro pk hstart
      show db'.edgeBuckets.total pk = _
      rw [hbuckets, Dict.total_sumInto, keyedSum_append, h.totals pk hstart]
    · intro u hu
      exact h.locks u (List.mem_of_mem_eraseIdx hu)
    · intro nid hnid pk hpk hstart
      have hpk' : pk ∈ db'.edgeBuckets.keys := hpk
      rw [hbuckets] at hpk'
      rcases Dict.mem_keys_sumInto.mp hpk' with hold | hfiled
      · exact h.clear nid hnid pk hold hstart
      · unfold Database.contributions at hfiled
        rw [List.map_map] at hfiled
        obtain ⟨e, he, rfl⟩ := List.mem_map.mp hfiled
        -- neither endpoint is `nid`: one not deleted yet is avoided, a deleted one is waited for
        obtain ⟨hs, ht'⟩ := Database.mem_collectNodes_of_edge he
        have hends : ∀ end_, end_ ∈ (Database.collectNodes t.batch.edges).keys →
            end_ ∉ s.purging.todo → end_ ≠ nid := by
          rintro end_ hend htodo rfl
          have hlock : end_ ∈ t.locked := by
            rw [hlocked]
            exact mem_sortOn.mpr hend
          rcases hnid with hin | hin
          · exact htodo hin
          · exact h.locks t hmem end_ hlock hin
        obtain ⟨hsource, htarget⟩ := hquiet t ht e he hstart
        have hne₁ := hends _ hs hsource
        have hne₂ := hends _ ht' htarget
        show (decide (e.source.id = nid) || decide (e.target.id = nid)) = false
        simp [hne₁, hne₂]

/-- The cascade meets no bucket at or after the cutoff. -/
theorem Inv.endStatement (h : Inv before s) {deleted : List String}
    (hpurging : s.purging = .sweeping [] deleted) :
    Inv before { s with
      db := deleted.foldl Database.deleteNode s.db
      purging := .forgetting } := by
  obtain ⟨-, hb, -⟩ := Database.foldl_deleteNode deleted s.db
  apply Inv.outside _ rfl rfl
  intro pk hstart
  show (deleted.foldl Database.deleteNode s.db).edgeBuckets.total pk = keyedSum s.filed pk
  rw [hb, Dict.total_filter_key (fun pk : BucketPk => !deleted.any (fun nid => pk.mentions nid)),
    ← h.totals pk hstart]
  by_cases hpk : pk ∈ s.db.edgeBuckets.keys
  · have hnone : deleted.any (fun nid => pk.mentions nid) = false := by
      rw [List.any_eq_false]
      intro nid hnid
      rw [h.clear nid (Or.inr (by rw [hpurging]; exact hnid)) pk hpk hstart]
      exact Bool.false_ne_true
    rw [hnone]
    rfl
  · have hzero : s.db.edgeBuckets.total pk = 0 := Dict.get?_eq_none_iff.mpr hpk
    rw [hzero, ite_self]

/-- **One undisturbed step** keeps the invariant. -/
theorem Inv.step (h : Inv before s) {l : Label} {s' : State} (hquiet : Undisturbed before s l)
    (hstep : (system before).step s l s') : Inv before s' := by
  cases l with
  | begin batch receivedAt =>
    obtain ⟨-, -, rfl⟩ := hstep
    refine ⟨h.totals, ?_, h.clear⟩
    intro t ht nid hnid
    rcases List.mem_append.mp ht with ht | ht
    · exact h.locks t ht nid hnid
    · rw [List.mem_singleton.mp ht] at hnid
      cases hnid
  | upsertNode i =>
    obtain ⟨t, nid, ht, -, -, hfree, rfl⟩ := hstep
    refine ⟨h.totals, ?_, h.clear⟩
    intro u hu nid' hnid'
    rcases List.mem_or_eq_of_mem_set hu with hu | rfl
    · exact h.locks u hu nid' hnid'
    · rcases List.mem_append.mp hnid' with hold | hnew
      · exact h.locks t (List.mem_of_getElem? ht) nid' hold
      · rw [List.mem_singleton.mp hnew]
        exact hfree
  | commit i =>
    obtain ⟨t, db', ht, hlocked, hok, rfl⟩ := hstep
    exact h.commit ht hlocked hok hquiet
  | rollback i =>
    obtain ⟨-, rfl⟩ := hstep
    exact ⟨h.totals, fun t ht => h.locks t (List.mem_of_mem_eraseIdx ht), h.clear⟩
  | purge =>
    obtain ⟨-, rfl⟩ := hstep
    exact Inv.outside h.totals rfl rfl
  | deleteBuckets chosen =>
    obtain ⟨-, -, hexpired, -, rfl⟩ := hstep
    have hidle : ∀ p : Purging, p = .emptied ∨ p = .deleting → p.todo = [] ∧ p.deleted = [] := by
      rintro p (rfl | rfl)
      · exact ⟨rfl, rfl⟩
      · exact ⟨rfl, rfl⟩
    obtain ⟨htodo, hdeleted⟩ := hidle
      (if chosen.length < Database.purgeBatch then .emptied else .deleting)
      (by split; exacts [Or.inl rfl, Or.inr rfl])
    refine Inv.outside ?_ htodo hdeleted
    intro pk hstart
    have hkept : pk ∉ chosen := fun hpk =>
      absurd (Database.mem_expired.mp (hexpired pk hpk)).2 (not_lt.mpr hstart)
    show (s.db.deleteBuckets chosen).edgeBuckets.total pk = _
    rw [Database.deleteBuckets_edgeBuckets, Dict.total_filter_key, if_pos (decide_eq_true hkept)]
    exact h.totals pk hstart
  | snapshot =>
    obtain ⟨-, rfl⟩ := hstep
    refine ⟨h.totals, ?_, ?_⟩
    · intro t _ nid _ hdeleted
      cases hdeleted
    · rintro nid (hin | hin) pk hpk _
      · exact Database.not_mentions_of_orphan (Database.mem_orphans.mp hin).2 hpk
      · cases hin
  | deleteNode nid =>
    obtain ⟨todo, deleted, hpurging, hchosen, hfree, rfl⟩ := hstep
    have hclear := h.clear
    have hlocks := h.locks
    rw [hpurging] at hclear hlocks
    refine ⟨h.totals, ?_, ?_⟩
    · intro t ht nid' hnid' hdeleted
      rcases List.mem_cons.mp hdeleted with rfl | hdeleted
      · exact hfree t ht hnid'
      · exact hlocks t ht nid' hnid' hdeleted
    · rintro nid' (hin | hin)
      · exact hclear nid' (Or.inl (List.mem_of_mem_erase hin))
      · rcases List.mem_cons.mp hin with rfl | hin
        · exact hclear nid' (Or.inl hchosen)
        · exact hclear nid' (Or.inr hin)
  | endStatement =>
    obtain ⟨deleted, hpurging, rfl⟩ := hstep
    exact h.endStatement hpurging
  | deadlock =>
    obtain ⟨todo, deleted, -, rfl⟩ := hstep
    exact Inv.outside h.totals rfl rfl
  | deleteBatches =>
    obtain ⟨-, rfl⟩ := hstep
    exact Inv.outside h.totals rfl rfl

end steps

/-! ### Runs -/

/-- **Retention keeps live data** in every run in which no transaction commits, while the
    orphan DELETE runs, a fresh observation on a node the statement has still to delete. -/
theorem live_data_kept (before : Datetime) {s : State}
    (h : Reachable ((system before).restrict (Undisturbed before)) s) : s.Intact before := by
  have hinv : Inv before s := by
    refine System.invariant (Inv before) ?_ ?_ s h
    · rintro s ⟨-, hpurging, hfiled⟩
      refine Inv.outside ?_ (by rw [hpurging]; rfl) (by rw [hpurging]; rfl)
      intro pk _
      rw [hfiled, Dict.keyedSum_entries]
    · intro s l s' hs hstep
      exact hs.step hstep.1 hstep.2
  exact hinv.intact

/-! ### One purge, two schedules -/

/-- Before the purge: one bucket, of the first minute. -/
def sampleStart : State :=
  ⟨Database.empty.committed sampleBatchA 5000, [], .idle,
    (Database.empty.committed sampleBatchA 5000).edgeBuckets.entries⟩

def sampleExpired : BucketPk := Database.pkOf "c" sampleEdgeA

def sampleFresh : BucketPk := Database.pkOf "c" sampleEdgeC

def sampleWeb : String := "k8s:c:shop:Deployment:web"

def sampleDb : String := "k8s:c:shop:Deployment:db"

/-- The transaction commits before the orphan DELETE starts, and its bucket is kept. -/
theorem live_data_kept_before_snapshot :
    ∃ s, Reachable ((system 60000000).restrict (Undisturbed 60000000)) s ∧
      s.purging = .done ∧ s.Intact 60000000 ∧ sampleFresh ∈ s.db.edgeBuckets.keys := by
  have h₀ : Reachable ((system 60000000).restrict (Undisturbed 60000000)) sampleStart :=
    .init ⟨rfl, rfl, rfl⟩
  have h₁ := h₀.step (l := Label.purge) ⟨trivial, rfl, rfl⟩
  have h₂ := h₁.step (l := Label.deleteBuckets [sampleExpired])
    ⟨trivial, rfl, by decide +kernel, by decide +kernel, by decide +kernel, rfl⟩
  have h₃ := h₂.step (l := Label.begin sampleBatchC 60001000)
    ⟨trivial, by decide +kernel, nofun, rfl⟩
  have h₄ := h₃.step (l := Label.upsertNode 0)
    ⟨trivial, _, sampleDb, rfl, by decide +kernel, by simp [sampleStart], nofun, rfl⟩
  have h₅ := h₄.step (l := Label.upsertNode 0)
    ⟨trivial, _, sampleWeb, rfl, by decide +kernel, by decide +kernel, nofun, rfl⟩
  have h₆ := h₅.step (l := Label.commit 0)
    ⟨fun _ _ _ _ _ => ⟨nofun, nofun⟩, _, _, rfl, by decide +kernel,
      Database.ingestBatch_eq_committed (by decide +kernel), rfl⟩
  have h₇ := h₆.step (l := Label.snapshot) ⟨trivial, rfl, rfl⟩
  have h₈ := h₇.step (l := Label.endStatement)
    ⟨trivial, [], congrArg (Purging.sweeping · []) (by decide +kernel), rfl⟩
  have h₉ := h₈.step (l := Label.deleteBatches) ⟨trivial, rfl, rfl⟩
  have hintact := live_data_kept 60000000 h₉
  exact ⟨_, h₉, rfl, hintact, (hintact sampleFresh (by decide +kernel) (by decide +kernel)).1⟩

/-- The transaction commits after the snapshot of the orphan DELETE: its bucket is swept away
    by the cascade, and its batch row stays, so a replay is refused. -/
theorem fresh_bucket_destroyed :
    ∃ s, Reachable (system 60000000) s ∧ s.purging = .done ∧
      sampleFresh ∈ s.filed.map Prod.fst ∧ 60000000 ≤ sampleFresh.bucketStart ∧
      sampleFresh ∉ s.db.edgeBuckets.keys ∧
      s.db.ingestBatches.contains sampleBatchC.batchId = true := by
  have h₀ : Reachable (system 60000000) sampleStart := .init ⟨rfl, rfl, rfl⟩
  have h₁ := h₀.step (l := Label.purge) ⟨rfl, rfl⟩
  have h₂ := h₁.step (l := Label.deleteBuckets [sampleExpired])
    ⟨rfl, by decide +kernel, by decide +kernel, by decide +kernel, rfl⟩
  -- both nodes are orphans now
  have h₃ := h₂.step (l := Label.snapshot) ⟨rfl, rfl⟩
  have h₄ := h₃.step (l := Label.begin sampleBatchC 60001000) ⟨by decide +kernel, nofun, rfl⟩
  have h₅ := h₄.step (l := Label.upsertNode 0)
    ⟨_, sampleDb, rfl, by decide +kernel, by simp [sampleStart], nofun, rfl⟩
  have h₆ := h₅.step (l := Label.upsertNode 0)
    ⟨_, sampleWeb, rfl, by decide +kernel, by decide +kernel, nofun, rfl⟩
  have h₇ := h₆.step (l := Label.commit 0)
    ⟨_, _, rfl, by decide +kernel, Database.ingestBatch_eq_committed (by decide +kernel), rfl⟩
  -- the rows were updated, and are decided again by the old snapshot
  have h₈ := h₇.step (l := Label.deleteNode sampleDb)
    ⟨_, _, rfl, by decide +kernel, nofun, rfl⟩
  have h₉ := h₈.step (l := Label.deleteNode sampleWeb)
    ⟨_, _, rfl, by decide +kernel, nofun, rfl⟩
  have h₁₀ := h₉.step (l := Label.endStatement)
    ⟨_, congrArg (Purging.sweeping · _) (by decide +kernel), rfl⟩
  have h₁₁ := h₁₀.step (l := Label.deleteBatches) ⟨rfl, rfl⟩
  exact ⟨_, h₁₁, rfl, by decide +kernel, by decide +kernel, by decide +kernel, by decide +kernel⟩

end TopologyVisualizer.Backend.PurgeRace
