import TopologyVisualizer.Backend.Postgres

/-! # What a Purge Deletes

    The loop of bounded deletes is one unbounded delete, whichever rows the
    server picks at each turn (`DeletesAllExpired.spec`), and it ends
    (`deletesAllExpired_exists`). The orphan DELETE then cascades to nothing
    (`deleteOrphans_spec`), so a whole purge is determined by the tables it
    found (`PurgesExpired.spec`).
-/

namespace TopologyVisualizer.Backend.Postgres

namespace Database

/-! ### What a statement changes -/

@[simp] theorem deleteBuckets_edgeBuckets (db : Database) (chosen : List BucketPk) :
    (db.deleteBuckets chosen).edgeBuckets = db.edgeBuckets.filter (fun pk _ => pk ∉ chosen) := rfl

@[simp] theorem deleteBuckets_nodes (db : Database) (chosen : List BucketPk) :
    (db.deleteBuckets chosen).nodes = db.nodes := rfl

@[simp] theorem deleteBuckets_ingestBatches (db : Database) (chosen : List BucketPk) :
    (db.deleteBuckets chosen).ingestBatches = db.ingestBatches := rfl

@[simp] theorem deleteNode_nodes (db : Database) (nid : String) :
    (db.deleteNode nid).nodes = db.nodes.filter (fun id _ => id != nid) := rfl

@[simp] theorem deleteNode_edgeBuckets (db : Database) (nid : String) :
    (db.deleteNode nid).edgeBuckets = db.edgeBuckets.filter (fun pk _ => !pk.mentions nid) := rfl

@[simp] theorem deleteBatches_edgeBuckets (db : Database) (before : Datetime) :
    (db.deleteBatches before).edgeBuckets = db.edgeBuckets := rfl

@[simp] theorem deleteBatches_nodes (db : Database) (before : Datetime) :
    (db.deleteBatches before).nodes = db.nodes := rfl

@[simp] theorem deleteBatches_ingestBatches (db : Database) (before : Datetime) :
    (db.deleteBatches before).ingestBatches =
      db.ingestBatches.filter (fun _ row => !decide (row.receivedAt < before)) := rfl

/-! ### One bounded delete -/

theorem expired_nodup (db : Database) (before : Datetime) : (db.expired before).Nodup :=
  List.Nodup.filter _ db.edgeBuckets.nodup

theorem mem_expired {db : Database} {before : Datetime} {pk : BucketPk} :
    pk ∈ db.expired before ↔ pk ∈ db.edgeBuckets.keys ∧ pk.bucketStart < before := by
  rw [expired, List.mem_filter, decide_eq_true_iff]

theorem expired_deleteBuckets (db : Database) (chosen : List BucketPk) (before : Datetime) :
    (db.deleteBuckets chosen).expired before =
      (db.expired before).filter (fun pk => pk ∉ chosen) := by
  unfold expired deleteBuckets
  rw [Dict.keys_filter, List.filter_filter, List.filter_filter]
  simp only [Bool.and_comm]

/-- Removing `k` distinct elements of a list without repetitions leaves `k` fewer. -/
theorem length_filter_notMem {α : Type} [DecidableEq α] {l chosen : List α} (hl : l.Nodup)
    (hchosen : chosen.Nodup) (hsub : ∀ a ∈ chosen, a ∈ l) :
    (l.filter (fun a => a ∉ chosen)).length + chosen.length = l.length := by
  have hperm : (l.filter (fun a => decide (a ∈ chosen))).Perm chosen := by
    apply (List.perm_ext_iff_of_nodup (hl.filter _) hchosen).mpr
    intro a
    rw [List.mem_filter, decide_eq_true_iff]
    exact ⟨fun h => h.2, fun h => ⟨hsub a h, h⟩⟩
  have hsplit := List.length_eq_length_filter_add (l := l) (fun a => decide (a ∈ chosen))
  rw [hperm.length_eq] at hsplit
  have hnot : l.filter (fun a => a ∉ chosen) = l.filter (fun a => !decide (a ∈ chosen)) :=
    List.filter_congr (fun a _ => decide_not)
  rw [hnot]
  omega

/-- A bounded delete leaves the expired rows it did not choose. -/
theorem DeletesExpired.expired_length {before : Datetime} {db db' : Database}
    {chosen : List BucketPk} (h : DeletesExpired before db chosen db') :
    (db'.expired before).length + chosen.length = (db.expired before).length := by
  rw [h.result, expired_deleteBuckets]
  exact length_filter_notMem (db.expired_nodup before) h.distinct h.expired

/-- A delete below its limit found every expired row. -/
theorem DeletesExpired.all_of_lt {before : Datetime} {db db' : Database} {chosen : List BucketPk}
    (h : DeletesExpired before db chosen db') (hlt : chosen.length < purgeBatch) {pk : BucketPk}
    (hpk : pk ∈ db.expired before) : pk ∈ chosen := by
  have hlength := h.expired_length
  have hlimit := h.limit
  have hempty : (db'.expired before).length = 0 := by omega
  by_contra hnot
  have hleft : pk ∈ db'.expired before := by
    rw [h.result, expired_deleteBuckets, List.mem_filter]
    exact ⟨hpk, decide_eq_true hnot⟩
  rw [List.length_eq_zero_iff.mp hempty] at hleft
  cases hleft

/-! ### The loop -/

/-- The buckets a purge keeps. -/
def unexpired (db : Database) (before : Datetime) : Dict BucketPk Bucket :=
  db.edgeBuckets.filter (fun pk _ => !decide (pk.bucketStart < before))

theorem unexpired_deleteBuckets {db : Database} {before : Datetime} {chosen : List BucketPk}
    (h : ∀ pk ∈ chosen, pk.bucketStart < before) :
    (db.deleteBuckets chosen).unexpired before = db.unexpired before := by
  unfold unexpired deleteBuckets
  rw [Dict.filter_filter]
  apply Dict.filter_congr
  intro pk _ _
  by_cases hpk : pk ∈ chosen
  · simp [h pk hpk]
  · simp [hpk]

/-- **The loop of bounded deletes** is one delete of everything expired. -/
theorem DeletesAllExpired.spec {before : Datetime} {db db' : Database} {n : Nat}
    (h : DeletesAllExpired before db db' n) :
    db'.edgeBuckets = db.unexpired before ∧ db'.nodes = db.nodes ∧
    db'.ingestBatches = db.ingestBatches ∧ n = (db.expired before).length := by
  induction h with
  | @last db db' chosen hdel hlt =>
    have hlength := hdel.expired_length
    have hlimit := hdel.limit
    refine ⟨?_, ?_, ?_, by omega⟩
    · rw [hdel.result, deleteBuckets_edgeBuckets, unexpired]
      apply Dict.filter_congr
      intro pk b hb
      have hkey : pk ∈ db.edgeBuckets.keys := Dict.mem_keys_iff.mpr ⟨b, hb⟩
      have hiff : pk ∈ chosen ↔ pk.bucketStart < before := by
        constructor
        · exact fun hpk => (mem_expired.mp (hdel.expired pk hpk)).2
        · exact fun hpk => hdel.all_of_lt hlt (mem_expired.mpr ⟨hkey, hpk⟩)
      rw [← decide_not, decide_eq_decide, hiff]
    · rw [hdel.result, deleteBuckets_nodes]
    · rw [hdel.result, deleteBuckets_ingestBatches]
  | @more db db₁ db₂ chosen n hdel _ _ ih =>
    obtain ⟨hb, hn, hi, hcount⟩ := ih
    have hlength := hdel.expired_length
    refine ⟨?_, ?_, ?_, by omega⟩
    · rw [hb, hdel.result]
      exact unexpired_deleteBuckets (fun pk hpk => (mem_expired.mp (hdel.expired pk hpk)).2)
    · rw [hn, hdel.result, deleteBuckets_nodes]
    · rw [hi, hdel.result, deleteBuckets_ingestBatches]

/-- **The loop ends**: each full batch leaves fewer expired rows. -/
theorem deletesAllExpired_exists (before : Datetime) (db : Database) :
    ∃ db' n, DeletesAllExpired before db db' n := by
  induction hm : (db.expired before).length using Nat.strong_induction_on generalizing db with
  | _ m ih =>
    set chosen := (db.expired before).take purgeBatch with hchosen
    have hdel : DeletesExpired before db chosen (db.deleteBuckets chosen) :=
      { distinct := (db.expired_nodup before).sublist (List.take_sublist _ _)
        expired := fun pk hpk => List.mem_of_mem_take hpk
        limit := List.length_take
        result := rfl }
    by_cases hlt : chosen.length < purgeBatch
    · exact ⟨_, _, .last hdel hlt⟩
    · have hlength := hdel.expired_length
      have hpos : 0 < purgeBatch := by decide
      obtain ⟨db', n, hrest⟩ := ih _ (by omega) (db.deleteBuckets chosen) rfl
      exact ⟨db', _, .more hdel hlt hrest⟩

/-! ### The orphans -/

/-- Deleting nodes one by one, with the cascade of each. -/
theorem foldl_deleteNode (nids : List String) (db : Database) :
    (nids.foldl deleteNode db).nodes = db.nodes.filter (fun nid _ => nid ∉ nids) ∧
    (nids.foldl deleteNode db).edgeBuckets =
      db.edgeBuckets.filter (fun pk _ => !nids.any (fun nid => pk.mentions nid)) ∧
    (nids.foldl deleteNode db).ingestBatches = db.ingestBatches := by
  induction nids generalizing db with
  | nil => exact ⟨(Dict.filter_true _).symm, (Dict.filter_true _).symm, rfl⟩
  | cons nid nids ih =>
    obtain ⟨hn, hb, hi⟩ := ih (db.deleteNode nid)
    refine ⟨?_, ?_, hi⟩
    · rw [List.foldl_cons, hn, deleteNode_nodes, Dict.filter_filter]
      apply Dict.filter_congr
      intro id _ _
      by_cases hid : id = nid
      · simp [hid]
      · simp [hid]
    · rw [List.foldl_cons, hb, deleteNode_edgeBuckets, Dict.filter_filter]
      apply Dict.filter_congr
      intro pk _ _
      simp [List.any_cons, Bool.not_or]

theorem mem_orphans {db : Database} {nid : String} :
    nid ∈ db.orphans ↔ nid ∈ db.nodes.keys ∧ db.isOrphan nid = true := by
  rw [orphans, List.mem_filter]

/-- A bucket mentions no orphan. -/
theorem not_mentions_of_orphan {db : Database} {nid : String} (h : db.isOrphan nid = true)
    {pk : BucketPk} (hpk : pk ∈ db.edgeBuckets.keys) : pk.mentions nid = false := by
  unfold isOrphan at h
  rw [Bool.not_eq_true', List.any_eq_false] at h
  exact Bool.eq_false_iff.mpr (h pk hpk)

/-- **The orphan DELETE**, when nothing runs beside it, cascades to nothing. -/
theorem deleteOrphans_spec (db : Database) :
    db.deleteOrphans.1.nodes = db.nodes.filter (fun nid _ => !db.isOrphan nid) ∧
    db.deleteOrphans.1.edgeBuckets = db.edgeBuckets ∧
    db.deleteOrphans.1.ingestBatches = db.ingestBatches := by
  obtain ⟨hn, hb, hi⟩ := foldl_deleteNode db.orphans db
  refine ⟨hn.trans ?_, hb.trans ?_, hi⟩
  · apply Dict.filter_congr
    intro nid n hget
    have hkey : nid ∈ db.nodes.keys := Dict.mem_keys_iff.mpr ⟨n, hget⟩
    have hiff : nid ∈ db.orphans ↔ db.isOrphan nid = true := by
      rw [mem_orphans]
      exact ⟨fun h => h.2, fun h => ⟨hkey, h⟩⟩
    simp [hiff]
  · conv_rhs => rw [← Dict.filter_true db.edgeBuckets]
    apply Dict.filter_congr
    intro pk b hget
    have hkey : pk ∈ db.edgeBuckets.keys := Dict.mem_keys_iff.mpr ⟨b, hget⟩
    rw [Bool.not_eq_true', List.any_eq_false]
    intro nid hnid
    rw [not_mentions_of_orphan (mem_orphans.mp hnid).2 hkey]
    exact Bool.false_ne_true

/-! ### The whole purge -/

/-- Whether a bucket of the table has `nid` as an endpoint. -/
def referenced (buckets : Dict BucketPk Bucket) (nid : String) : Bool :=
  buckets.keys.any (fun pk => pk.mentions nid)

/-- **`purge_expired`** is determined by the tables it found. -/
theorem PurgesExpired.spec {before : Datetime} {db db' : Database} {stats : PurgeStats}
    (h : PurgesExpired before db db' stats) :
    db'.edgeBuckets = db.unexpired before ∧
    db'.nodes = db.nodes.filter (fun nid _ => referenced (db.unexpired before) nid) ∧
    db'.ingestBatches = db.ingestBatches.filter (fun _ row => !decide (row.receivedAt < before)) ∧
    stats.edgeBucketsDeleted = (db.expired before).length ∧
    stats.nodesDeleted =
      (db.nodes.keys.filter (fun nid => !referenced (db.unexpired before) nid)).length := by
  obtain ⟨db₁, hloop, hcount, rfl⟩ := h
  obtain ⟨hb, hn, hi, hdeleted⟩ := hloop.spec
  obtain ⟨hn', hb', hi'⟩ := db₁.deleteOrphans_spec
  have horphan : ∀ nid, db₁.isOrphan nid = !referenced (db.unexpired before) nid := by
    intro nid
    unfold isOrphan referenced
    rw [hb]
  refine ⟨?_, ?_, ?_, hdeleted, ?_⟩
  · rw [deleteBatches_edgeBuckets, hb', hb]
  · rw [deleteBatches_nodes, hn', hn]
    apply Dict.filter_congr
    intro nid _ _
    rw [horphan, Bool.not_not]
  · rw [deleteBatches_ingestBatches, hi', hi]
  · rw [hcount]
    show (db₁.nodes.keys.filter db₁.isOrphan).length = _
    rw [hn, funext horphan]

/-- A purge that nothing stops returns. -/
theorem purgesExpired_exists (before : Datetime) (db : Database) :
    ∃ db' stats, PurgesExpired before db db' stats := by
  obtain ⟨db₁, n, hloop⟩ := deletesAllExpired_exists before db
  exact ⟨_, ⟨n, db₁.deleteOrphans.2⟩, db₁, hloop, rfl, rfl⟩

end Database

end TopologyVisualizer.Backend.Postgres
