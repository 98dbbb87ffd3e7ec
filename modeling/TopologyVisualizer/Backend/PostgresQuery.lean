import TopologyVisualizer.Backend.MemoryOrder
import TopologyVisualizer.Backend.Postgres

/-! # What the Queries Answer

    `query_edges` and `list_namespaces` of the PostgreSQL repository, as
    functions of what the tables hold under each key:

    * the joins find each bucket's two nodes once (`joined_eq`);
    * the SELECT list over a group is the group's sum (`aggregate_eq`);
    * so a query is `answerOf` the buckets it accepts, or an error when a
      sum leaves BIGINT (`queryEdges_eq`). No order of a scan is left in it.
-/

namespace TopologyVisualizer.Backend.Postgres

open Sql (FitsBigint)

/-! ### The SELECT list -/

/-- A nullable column of a sum is the SQL sum of the column. -/
theorem sum_eq_of_nullableSum {f : Bucket → Option Nat} {v : Bucket} {bs : List Bucket}
    (h : NullableSum f v bs) : Sql.sum (bs.map f) = f v := by
  obtain ⟨hnull, hsum⟩ := h
  apply Sql.sum_eq
  · rw [hnull, List.forall_mem_map]
  · rw [hsum, List.map_map]
    rfl

/-- A column that is never null: the sum of a group, which has a row. -/
theorem sum_eq_of_sum {f : Bucket → Nat} {v : Bucket} {bs : List Bucket} (hne : bs ≠ [])
    (h : f v = (bs.map f).sum) : Sql.sum (bs.map (fun b => some (f b))) = some (f v) := by
  apply Sql.sum_eq
  · obtain ⟨b, hb⟩ := List.exists_mem_of_ne_nil bs hne
    constructor
    · intro hnone
      cases hnone
    · intro hall
      cases hall (some (f b)) (List.mem_map_of_mem hb)
  · show f v = _
    rw [h, List.map_map]
    rfl

theorem least_eq {v : Bucket} {bs : List Bucket}
    (h : v.firstSeen ∈ bs.map Bucket.firstSeen ∧ ∀ b ∈ bs, v.firstSeen ≤ b.firstSeen) :
    Sql.least (bs.map Bucket.firstSeen) = some v.firstSeen := by
  rw [Sql.least, List.min?_eq_some_iff]
  exact ⟨h.1, List.forall_mem_map.mpr h.2⟩

theorem greatest_eq {v : Bucket} {bs : List Bucket}
    (h : v.lastSeen ∈ bs.map Bucket.lastSeen ∧ ∀ b ∈ bs, b.lastSeen ≤ v.lastSeen) :
    Sql.greatest (bs.map Bucket.lastSeen) = some v.lastSeen := by
  rw [Sql.greatest, List.max?_eq_some_iff]
  exact ⟨h.1, List.forall_mem_map.mpr h.2⟩

namespace Database

/-- **One group** selects its sum, or fails when the sum leaves BIGINT. -/
theorem aggregate_eq {key : EdgeKey} {group : List JoinedRow} {v : Bucket}
    (h : v.IsSum (group.map JoinedRow.bucket)) :
    aggregate key group =
      if InRange v then .ok (InMemoryRepository.toAggregate (key, v))
      else .error .numericValueOutOfRange := by
  have hcount := sum_eq_of_sum h.nonempty h.connectionCount
  have hfailed := sum_eq_of_nullableSum h.failedConnectionCount
  have hlatency := sum_eq_of_sum h.nonempty h.connectLatencyCount
  have hlatencySum := sum_eq_of_sum h.nonempty h.connectLatencySumUs
  have hsent := sum_eq_of_nullableSum h.bytesSent
  have hreceived := sum_eq_of_nullableSum h.bytesReceived
  have hfirst := least_eq h.firstSeen
  have hlast := greatest_eq h.lastSeen
  rw [List.map_map] at hcount hfailed hlatency hlatencySum hsent hreceived hfirst hlast
  simp only [Function.comp_def] at hcount hfailed hlatency hlatencySum hsent hreceived hfirst hlast
  unfold aggregate
  rw [hcount, hfailed, hlatency, hlatencySum, hsent, hreceived, hfirst, hlast]
  -- the casts are made in the order of the columns; the first that fails decides
  by_cases hall : InRange v
  · obtain ⟨h₁, h₂, h₃, h₄, h₅, h₆⟩ := hall
    rw [Sql.toBigint_of_fits h₁, Sql.toBigint_of_fits h₂, Sql.toBigint_of_fits h₃,
      Sql.toBigint_of_fits h₄, Sql.toBigint_of_fits h₅, Sql.toBigint_of_fits h₆,
      if_pos ⟨h₁, h₂, h₃, h₄, h₅, h₆⟩]
    rfl
  · rw [if_neg hall]
    unfold InRange at hall
    unfold Sql.toBigint
    split
    · split
      · split
        · split
          · split
            · split
              · exact absurd ⟨‹_›, ‹_›, ‹_›, ‹_›, ‹_›, ‹_›⟩ hall
              · rfl
            · rfl
          · rfl
        · rfl
      · rfl
    · rfl

/-! ### The joins -/

/-- A node found by its column `id` is found by its key. -/
theorem scan_nodes (db : Database) (nid : String) :
    db.nodes.entries.filter (fun e => e.2.id = nid) =
      ((db.nodes.get? nid).map (fun n => (nid, n))).toList := by
  rw [← Sql.scan_eq_toList]
  apply List.filter_congr
  intro e he
  rw [db.ids e.1 e.2 (Dict.get?_eq_some_iff.mpr he)]

/-- **The FROM clause**: each bucket with its two nodes. -/
theorem joined_eq (db : Database) :
    db.joined = db.edgeBuckets.entries.filterMap (fun b =>
      (db.nodes.get? b.1.edge.sourceId).bind (fun s =>
        (db.nodes.get? b.1.edge.targetId).map (fun t => ⟨b.1, b.2, s, t⟩))) := by
  unfold joined Sql.joinOn
  simp only [scan_nodes]
  induction db.edgeBuckets.entries with
  | nil => rfl
  | cons b bs ih =>
    rw [List.flatMap_cons, List.flatMap_append, List.map_append, ih, List.filterMap_cons]
    cases hs : db.nodes.get? b.1.edge.sourceId with
    | none => rfl
    | some s =>
      cases ht : db.nodes.get? b.1.edge.targetId with
      | none => simp [ht]
      | some t => simp [ht]

/-- The edge key a row of `edge_buckets` is grouped under, if the WHERE clause keeps it. -/
def accepts (lower : Lowering) (clusterId : String) (db : Database) (window : ResolvedWindow)
    (filters : EdgeFilters) (pk : BucketPk) : Option EdgeKey :=
  (db.nodes.get? pk.edge.sourceId).bind (fun s =>
    (db.nodes.get? pk.edge.targetId).bind (fun t =>
      if (Sql.Truth.all (conditions lower clusterId window filters pk s t)).holds
      then some pk.edge else none))

/-- The rows the query aggregates, as the buckets it accepts. -/
theorem accepted_rows (lower : Lowering) (clusterId : String) (db : Database)
    (window : ResolvedWindow) (filters : EdgeFilters) :
    ((db.joined.filter (fun r => (Sql.Truth.all
        (conditions lower clusterId window filters r.pk r.source r.target)).holds)).map
      (fun r => (r.pk.edge, r.bucket))) =
    regroup (db.accepts lower clusterId window filters) db.edgeBuckets.entries := by
  rw [joined_eq, regroup, List.filter_filterMap, List.map_filterMap]
  apply List.filterMap_congr
  intro b _
  unfold accepts
  cases db.nodes.get? b.1.edge.sourceId with
  | none => rfl
  | some s =>
    cases db.nodes.get? b.1.edge.targetId with
    | none => rfl
    | some t =>
      by_cases hkeep : (Sql.Truth.all (conditions lower clusterId window filters b.1 s t)).holds = true
      · simp [hkeep, Option.filter]
      · simp [hkeep, Option.filter]

/-! ### The query -/

/-- The counts of a row of the answer are BIGINTs. -/
def AnswerInRange (a : EdgeAggregate) : Prop :=
  FitsBigint (some a.connectionCount) ∧ FitsBigint a.failedConnectionCount ∧
  FitsBigint (some a.connectLatencyCount) ∧ FitsBigint (some a.connectLatencySumUs) ∧
  FitsBigint a.bytesSent ∧ FitsBigint a.bytesReceived

instance (a : EdgeAggregate) : Decidable (AnswerInRange a) := inferInstanceAs (Decidable (_ ∧ _))

/-- The groups of a query and the sums it accumulates are the same table. -/
theorem groups_perm (rows : List JoinedRow) (value : EdgeKey → Bucket)
    (hvalue : ∀ e ∈ (Dict.empty.sumInto (rows.map (fun r => (r.pk.edge, r.bucket)))).entries,
      value e.1 = e.2) :
    ((Sql.groupBy (fun r : JoinedRow => r.pk.edge) rows).map
        (fun g => InMemoryRepository.toAggregate (g.1, value g.1))).Perm
      ((Dict.empty.sumInto (rows.map (fun r => (r.pk.edge, r.bucket)))).entries.map
        InMemoryRepository.toAggregate) := by
  set summed := Dict.empty.sumInto (rows.map (fun r => (r.pk.edge, r.bucket))) with hsummed
  set select := fun k => InMemoryRepository.toAggregate (k, value k) with hselect
  have hgroups : (Sql.groupBy (fun r : JoinedRow => r.pk.edge) rows).map (fun g => select g.1) =
      (rows.map (fun r => r.pk.edge)).dedup.map select := by
    rw [Sql.groupBy, List.map_map]
    rfl
  have hentries : summed.entries.map InMemoryRepository.toAggregate = summed.keys.map select := by
    rw [Dict.keys, List.map_map]
    apply List.map_congr_left
    intro e he
    show InMemoryRepository.toAggregate e = InMemoryRepository.toAggregate (e.1, value e.1)
    rw [hvalue e he]
  have hkeys : (rows.map (fun r => r.pk.edge)).dedup.Perm summed.keys := by
    apply (List.perm_ext_iff_of_nodup (List.nodup_dedup _) summed.nodup).mpr
    intro k
    show _ ↔ k ∈ summed.keys
    rw [List.mem_dedup, hsummed, Dict.mem_keys_sumInto, List.map_map]
    simp [Dict.keys, Dict.empty]
  show ((Sql.groupBy (fun r : JoinedRow => r.pk.edge) rows).map (fun g => select g.1)).Perm _
  rw [hgroups, hentries]
  exact hkeys.map select

/-- **`query_edges`** is the answer to the buckets it accepts, when its sums fit. -/
theorem queryEdges_eq (lower : Lowering) (clusterId : String) (db : Database)
    (window : ResolvedWindow) (filters : EdgeFilters) :
    db.queryEdges lower clusterId window filters =
      if ∀ a ∈ answerOf (regroup (db.accepts lower clusterId window filters)
          db.edgeBuckets.entries), AnswerInRange a
      then .ok (answerOf (regroup (db.accepts lower clusterId window filters)
        db.edgeBuckets.entries))
      else .error .numericValueOutOfRange := by
  rw [← accepted_rows]
  unfold queryEdges
  simp only
  set rows := db.joined.filter (fun r => (Sql.Truth.all
    (conditions lower clusterId window filters r.pk r.source r.target)).holds) with hrows
  set accepted := rows.map (fun r => (r.pk.edge, r.bucket)) with haccepted
  set summed := Dict.empty.sumInto accepted with hsummed
  set value : EdgeKey → Bucket := fun k => (summed.get? k).getD (Bucket.new 0 0 0) with hvalue
  have hstored : ∀ e ∈ summed.entries, value e.1 = e.2 := by
    intro e he
    show (summed.get? e.1).getD _ = e.2
    rw [Dict.get?_eq_some_iff.mpr he]
    rfl
  have hperm := groups_perm rows value hstored
  -- each group sums to the value under its key
  have hgroup : ∀ g ∈ Sql.groupBy (fun r : JoinedRow => r.pk.edge) rows,
      aggregate g.1 g.2 = if InRange (value g.1)
        then .ok (InMemoryRepository.toAggregate (g.1, value g.1))
        else .error .numericValueOutOfRange := by
    rintro ⟨k, group⟩ hg
    obtain ⟨hk, rfl⟩ := Sql.mem_groupBy.mp hg
    have hmem : k ∈ summed.keys := by
      rw [hsummed, Dict.mem_keys_sumInto, haccepted, List.map_map]
      exact Or.inr hk
    obtain ⟨v, hv⟩ := Dict.mem_keys_iff.mp hmem
    have hvk : value k = v := by
      show (summed.get? k).getD _ = v
      rw [hv]
      rfl
    have hsum : keyedSum accepted k = (v : WithZero Bucket) := by
      have htotal := Dict.total_sumInto (Dict.empty : Dict EdgeKey Bucket) accepted k
      rw [Dict.total_empty, zero_add] at htotal
      exact htotal.symm.trans hv
    have hisSum := isSum_of_keyedSum_eq hsum
    rw [haccepted, List.filter_map, List.map_map] at hisSum
    show aggregate k _ = if InRange (value k) then _ else _
    rw [hvk]
    exact aggregate_eq hisSum
  rw [Sql.mapM_ite hgroup]
  -- the answer holds the selected rows, sorted
  have hanswer : sortOn EdgeAggregate.key
      ((Sql.groupBy (fun r : JoinedRow => r.pk.edge) rows).map
        (fun g => InMemoryRepository.toAggregate (g.1, value g.1))) = answerOf accepted := by
    refine sortOn_eq_of_perm hperm ?_
    exact (hperm.map EdgeAggregate.key).nodup_iff.mpr (answerOf_unsorted_keys accepted)
  have hrange : (∀ g ∈ Sql.groupBy (fun r : JoinedRow => r.pk.edge) rows, InRange (value g.1)) ↔
      ∀ a ∈ answerOf accepted, AnswerInRange a := by
    rw [← hanswer]
    simp only [mem_sortOn, List.forall_mem_map]
    rfl
  by_cases hall : ∀ a ∈ answerOf accepted, AnswerInRange a
  · rw [if_pos (hrange.mpr hall), if_pos hall, ← hanswer]
    rfl
  · rw [if_neg (fun h => hall (hrange.mp h)), if_neg hall]
    rfl

/-- An answer that comes back is the answer to the accepted buckets. -/
theorem queryEdges_of_ok {lower : Lowering} {clusterId : String} {db : Database}
    {window : ResolvedWindow} {filters : EdgeFilters} {answer : List EdgeAggregate}
    (h : db.queryEdges lower clusterId window filters = .ok answer) :
    answer = answerOf (regroup (db.accepts lower clusterId window filters)
      db.edgeBuckets.entries) := by
  rw [queryEdges_eq] at h
  split at h
  · exact (Except.ok.inj h).symm
  · cases h

/-! ### Namespaces -/

/-- The condition on the bucket, without the third truth value. -/
theorem holds_bucketConditions (clusterId : String) (window : ResolvedWindow) (pk : BucketPk) :
    (bucketConditions clusterId window pk).all Sql.Truth.holds =
      (decide (pk.clusterId = clusterId) && window.contains pk.bucketStart) := by
  simp [bucketConditions, ResolvedWindow.contains]

/-- **`list_namespaces`** lists the namespaces of the endpoints in the window. -/
theorem mem_listNamespaces {clusterId : String} {db : Database} {window : ResolvedWindow}
    {ns : String} :
    ns ∈ db.listNamespaces clusterId window ↔
      ∃ pk ∈ db.edgeBuckets.keys, pk.clusterId = clusterId ∧
        window.contains pk.bucketStart = true ∧
        ∃ n, (db.nodes.get? pk.edge.sourceId = some n ∨ db.nodes.get? pk.edge.targetId = some n) ∧
          n.namespace = some ns := by
  unfold listNamespaces
  simp only
  rw [mem_sortOn, List.mem_dedup, List.mem_filterMap]
  constructor
  · rintro ⟨⟨b, n⟩, hrow, hns⟩
    obtain ⟨hjoin, hkeep⟩ := List.mem_filter.mp hrow
    rw [Sql.Truth.holds_all, List.all_append, holds_bucketConditions] at hkeep
    simp only [Bool.and_eq_true, decide_eq_true_iff] at hkeep
    obtain ⟨hb, hn⟩ := List.mem_flatMap.mp hjoin
    obtain ⟨n', hn', heq⟩ := List.mem_map.mp hn.2
    cases heq
    obtain ⟨hstored, hon⟩ := List.mem_filter.mp hn'
    have hget := Dict.get?_eq_some_iff.mpr hstored
    have hid := db.ids n.1 n.2 hget
    refine ⟨b.1, List.mem_map_of_mem hn.1, hkeep.1.1, hkeep.1.2, n.2, ?_, hns⟩
    simp only [Bool.or_eq_true, decide_eq_true_iff, hid] at hon
    rcases hon with hsource | htarget
    · exact Or.inl (hsource ▸ hget)
    · exact Or.inr (htarget ▸ hget)
  · rintro ⟨pk, hpk, hcluster, hwindow, n, hn, hns⟩
    obtain ⟨b, hb⟩ := Dict.mem_keys_iff.mp hpk
    obtain ⟨nid, hget, hon⟩ : ∃ nid, db.nodes.get? nid = some n ∧
        (nid = pk.edge.sourceId ∨ nid = pk.edge.targetId) := by
      rcases hn with hsource | htarget
      · exact ⟨_, hsource, Or.inl rfl⟩
      · exact ⟨_, htarget, Or.inr rfl⟩
    have hid := db.ids nid n hget
    refine ⟨((pk, b), (nid, n)), List.mem_filter.mpr ⟨?_, ?_⟩, hns⟩
    · refine List.mem_flatMap.mpr ⟨(pk, b), Dict.get?_eq_some_iff.mp hb, ?_⟩
      refine List.mem_map.mpr ⟨(nid, n), List.mem_filter.mpr ⟨Dict.get?_eq_some_iff.mp hget, ?_⟩, rfl⟩
      simpa [hid] using hon
    · rw [Sql.Truth.holds_all, List.all_append, holds_bucketConditions]
      simp [hcluster, hwindow, hns, Sql.isNotNull]

theorem listNamespaces_strict (clusterId : String) (db : Database) (window : ResolvedWindow) :
    (db.listNamespaces clusterId window).Pairwise (· < ·) :=
  sortOn_dedup_strict _

end Database

end TopologyVisualizer.Backend.Postgres
