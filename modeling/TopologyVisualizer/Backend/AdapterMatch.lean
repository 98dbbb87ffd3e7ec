import TopologyVisualizer.Backend.PostgresQuery

/-! # The Two Adapters, Side by Side

    `Matches` relates an in-memory repository to a database that holds the
    same nodes and, under the primary keys of its cluster, the same buckets.
    Matching stores answer alike: `query_edges` without a text query
    (`Matches.queryEdges`), `list_namespaces` (`Matches.listNamespaces`) and
    `nodes_for` (`Matches.nodesFor`).
-/

namespace TopologyVisualizer.Backend

open Postgres InMemoryRepository

/-- The primary key of an in-memory bucket in a cluster. -/
def BucketKey.pk (clusterId : String) (key : BucketKey) : BucketPk where
  bucketStart := key.bucketStart
  clusterId := clusterId
  edge := key.edge

theorem BucketKey.pk_injective (clusterId : String) :
    Function.Injective (BucketKey.pk clusterId) := by
  intro key key' h
  have hkey : (key.pk clusterId).key = (key'.pk clusterId).key := congrArg BucketPk.key h
  exact hkey

theorem BucketPk.pk_key {clusterId : String} {pk : BucketPk} (h : pk.clusterId = clusterId) :
    pk.key.pk clusterId = pk := by
  subst h
  rfl

/-! ### The relation -/

/-- The two tables of buckets hold the same rows, under the keys of one cluster. -/
structure SameBuckets (clusterId : String) (buckets : Dict BucketKey Bucket)
    (rows : Dict BucketPk Bucket) : Prop where
  same : ∀ key : BucketKey, rows.get? (key.pk clusterId) = buckets.get? key
  own : ∀ pk ∈ rows.keys, pk.clusterId = clusterId

/-- The stores hold the same data. `kept` is the received-at of the batch ids that the
    database still knows, `seen` lists the ids ever sent. -/
structure Matches (clusterId : String) (seen : List String) (kept : Dict String Datetime)
    (repo : InMemoryRepository) (db : Database) : Prop where
  cluster : repo.clusterId = clusterId
  nodes : ∀ nid, db.nodes.get? nid = repo.nodes.get? nid
  buckets : SameBuckets clusterId repo.buckets db.edgeBuckets
  batches : ∀ id, id ∈ repo.batches ↔ id ∈ seen
  received : ∀ id, (db.ingestBatches.get? id).map BatchRow.receivedAt = kept.get? id
  remembered : ∀ id ∈ kept.keys, id ∈ seen

/-- The entries of the tables correspond one to one. -/
theorem SameBuckets.entries {clusterId : String} {buckets : Dict BucketKey Bucket}
    {rows : Dict BucketPk Bucket} (h : SameBuckets clusterId buckets rows) :
    rows.entries.Perm (buckets.entries.map (fun e => (e.1.pk clusterId, e.2))) := by
  have hinj : Function.Injective (fun e : BucketKey × Bucket => (e.1.pk clusterId, e.2)) := by
    intro e e' hee
    rw [Prod.mk.injEq] at hee
    exact Prod.ext (BucketKey.pk_injective clusterId hee.1) hee.2
  apply (List.perm_ext_iff_of_nodup rows.entries_nodup (buckets.entries_nodup.map hinj)).mpr
  rintro ⟨pk, b⟩
  rw [← Dict.get?_eq_some_iff, List.mem_map]
  constructor
  · intro hget
    have hown := h.own pk (Dict.mem_keys_iff.mpr ⟨b, hget⟩)
    refine ⟨(pk.key, b), ?_, by rw [BucketPk.pk_key hown]⟩
    rw [← Dict.get?_eq_some_iff, ← h.same, BucketPk.pk_key hown]
    exact hget
  · rintro ⟨⟨key, b'⟩, hmem, heq⟩
    cases heq
    rw [h.same]
    exact Dict.get?_eq_some_iff.mpr hmem

theorem SameBuckets.keys {clusterId : String} {buckets : Dict BucketKey Bucket}
    {rows : Dict BucketPk Bucket} (h : SameBuckets clusterId buckets rows) :
    rows.keys.Perm (buckets.keys.map (BucketKey.pk clusterId)) := by
  have hkeys := h.entries.map Prod.fst
  rw [List.map_map] at hkeys
  rw [Dict.keys, Dict.keys, List.map_map]
  exact hkeys

/-- Filtering both tables by the start of the bucket. -/
theorem SameBuckets.filter {clusterId : String} {buckets : Dict BucketKey Bucket}
    {rows : Dict BucketPk Bucket} (h : SameBuckets clusterId buckets rows) (p : Datetime → Bool) :
    SameBuckets clusterId (buckets.filter (fun key _ => p key.bucketStart))
      (rows.filter (fun pk _ => p pk.bucketStart)) where
  same := by
    intro key
    rw [Dict.get?_filter, Dict.get?_filter, h.same]
    rfl
  own := by
    intro pk hpk
    rw [Dict.keys_filter] at hpk
    exact h.own pk (List.mem_filter.mp hpk).1

/-! ### Queries -/

/-- No text query is made: an empty one is none. -/
def EdgeFilters.QueryUnset (filters : EdgeFilters) : Prop :=
  filters.query = none ∨ filters.query = some ""

theorem holds_externalCondition (filters : EdgeFilters) (source target : StoredNode) :
    (Database.externalCondition filters source target).all Sql.Truth.holds = true ↔
      filters.includeExternal = true ∨ source.id ≠ externalNodeId ∧ target.id ≠ externalNodeId := by
  unfold Database.externalCondition
  cases filters.includeExternal with
  | true => simp
  | false => simp

theorem holds_namespacesCondition (filters : EdgeFilters) (source target : StoredNode) :
    (Database.namespacesCondition filters source target).all Sql.Truth.holds = true ↔
      filters.namespaces = [] ∨ ∃ ns ∈ filters.namespaces,
        source.namespace = some ns ∨ target.namespace = some ns := by
  unfold Database.namespacesCondition
  cases filters.namespaces with
  | nil => simp
  | cons ns nss =>
    simp only [List.isEmpty_cons, Bool.false_eq_true, if_false, List.all_cons, List.all_nil,
      Bool.and_true, Sql.Truth.holds_or, Sql.holds_eqAny, Bool.or_eq_true, List.any_eq_true,
      decide_eq_true_iff]
    constructor
    · rintro (⟨x, hx, hs⟩ | ⟨x, hx, ht⟩)
      · exact Or.inr ⟨x, hx, Or.inl hs⟩
      · exact Or.inr ⟨x, hx, Or.inr ht⟩
    · rintro (hnil | ⟨x, hx, hs | ht⟩)
      · cases hnil
      · exact Or.inl ⟨x, hx, hs⟩
      · exact Or.inr ⟨x, hx, ht⟩

theorem holds_kindCondition (filters : EdgeFilters) (source target : StoredNode) :
    (Database.kindCondition filters source target).all Sql.Truth.holds = true ↔
      ∀ kind, filters.kind = some kind →
        kind = "" ∨ source.kind.name = kind ∨ target.kind.name = kind := by
  unfold Database.kindCondition
  cases filters.kind with
  | none => simp
  | some kind =>
    by_cases hkind : kind = ""
    · simp [hkind]
    · simp [hkind, Sql.holds_eq_some]

theorem queryCondition_of_unset (lower : Database.Lowering) {filters : EdgeFilters}
    (hquery : filters.QueryUnset) (source target : StoredNode) :
    Database.queryCondition lower filters source target = [] := by
  unfold Database.queryCondition
  rcases hquery with hq | hq
  · rw [hq]
  · rw [hq]
    rfl

/-- What `_passes` checks of the two nodes when there is no text query. -/
theorem viewsPass_of_unset (casefold : String → String) {filters : EdgeFilters}
    (hquery : filters.QueryUnset) (source target : StoredNode) :
    viewsPass casefold source.view target.view filters = true ↔
      (filters.includeExternal = true ∨
        source.id ≠ externalNodeId ∧ target.id ≠ externalNodeId) ∧
      (filters.namespaces = [] ∨ ∃ ns ∈ filters.namespaces,
        source.namespace = some ns ∨ target.namespace = some ns) ∧
      ∀ kind, filters.kind = some kind →
        kind = "" ∨ source.kind.name = kind ∨ target.kind.name = kind := by
  unfold viewsPass StoredNode.view
  have hempty : ("" : String).isEmpty = true := rfl
  rcases hquery with hq | hq
  · rw [hq]
    cases filters.kind with
    | none => simp
    | some kind => simp [or_assoc, and_assoc]
  · rw [hq]
    cases filters.kind with
    | none => simp [hempty]
    | some kind => simp [hempty, or_assoc, and_assoc]

/-- Without a text query the WHERE clause is the check that `_passes` makes. -/
theorem holds_conditions (lower : Database.Lowering) (casefold : String → String)
    (clusterId : String) (window : ResolvedWindow) {filters : EdgeFilters}
    (hquery : filters.QueryUnset) (pk : BucketPk) (source target : StoredNode) :
    (Sql.Truth.all (Database.conditions lower clusterId window filters pk source target)).holds =
      (decide (pk.clusterId = clusterId) && window.contains pk.bucketStart &&
        viewsPass casefold source.view target.view filters) := by
  rw [Sql.Truth.holds_all, Database.conditions, queryCondition_of_unset lower hquery,
    List.append_nil, List.all_append, List.all_append, List.all_append,
    Database.holds_bucketConditions, Bool.and_assoc, Bool.and_assoc]
  congr 1
  rw [Bool.eq_iff_iff, Bool.and_eq_true, Bool.and_eq_true, holds_externalCondition,
    holds_namespacesCondition, holds_kindCondition, viewsPass_of_unset casefold hquery]

section reads
variable {clusterId : String} {seen : List String} {kept : Dict String Datetime}
  {repo : InMemoryRepository} {db : Database}

/-- Both adapters accept the same buckets when the WHERE clause makes the checks of `_passes`. -/
theorem Matches.accepts (h : Matches clusterId seen kept repo db) {lower : Database.Lowering}
    {casefold : String → String} {window : ResolvedWindow} {filters : EdgeFilters}
    (key : BucketKey)
    (hconditions : ∀ s t, repo.nodes.get? key.edge.sourceId = some s →
      repo.nodes.get? key.edge.targetId = some t →
      (Sql.Truth.all (Database.conditions lower clusterId window filters (key.pk clusterId) s
        t)).holds =
        (decide ((key.pk clusterId).clusterId = clusterId) && window.contains key.bucketStart &&
          viewsPass casefold s.view t.view filters)) :
    db.accepts lower clusterId window filters (key.pk clusterId) =
      repo.accepts casefold window filters key := by
  unfold Database.accepts InMemoryRepository.accepts passes
  show (db.nodes.get? key.edge.sourceId).bind (fun s =>
    (db.nodes.get? key.edge.targetId).bind (fun t => _)) = _
  rw [h.nodes, h.nodes]
  cases hs : repo.nodes.get? key.edge.sourceId with
  | none => simp
  | some s =>
    cases ht : repo.nodes.get? key.edge.targetId with
    | none => simp
    | some t =>
      simp only [Option.bind_some]
      rw [hconditions s t hs ht]
      simp [BucketKey.pk]

/-- Accepting the same buckets, the adapters answer alike, when the sums fit. -/
theorem Matches.queryEdges_of_accepts (h : Matches clusterId seen kept repo db)
    {lower : Database.Lowering} {casefold : String → String} {window : ResolvedWindow}
    {filters : EdgeFilters}
    (haccepts : ∀ key : BucketKey, db.accepts lower clusterId window filters (key.pk clusterId) =
      repo.accepts casefold window filters key) :
    db.queryEdges lower clusterId window filters =
      if ∀ a ∈ repo.queryEdges casefold window filters, Database.AnswerInRange a
      then .ok (repo.queryEdges casefold window filters)
      else .error .numericValueOutOfRange := by
  have haccepted : (regroup (db.accepts lower clusterId window filters)
      db.edgeBuckets.entries).Perm
      (regroup (repo.accepts casefold window filters) repo.buckets.entries) := by
    refine (regroup_perm _ h.buckets.entries).trans (List.Perm.of_eq ?_)
    unfold regroup
    rw [List.filterMap_map]
    apply List.filterMap_congr
    intro e _
    show (db.accepts lower clusterId window filters (e.1.pk clusterId)).map _ = _
    rw [haccepts]
  rw [Database.queryEdges_eq, answerOf_perm haccepted, ← queryEdges_eq_answerOf]

/-- **`query_edges`** answers alike, when the sums fit. -/
theorem Matches.queryEdges (h : Matches clusterId seen kept repo db) (lower : Database.Lowering)
    (casefold : String → String) (window : ResolvedWindow) {filters : EdgeFilters}
    (hquery : filters.QueryUnset)
    (hfit : ∀ a ∈ repo.queryEdges casefold window filters, Database.AnswerInRange a) :
    db.queryEdges lower clusterId window filters =
      .ok (repo.queryEdges casefold window filters) := by
  rw [h.queryEdges_of_accepts, if_pos hfit]
  intro key
  apply h.accepts
  intro s t _ _
  exact holds_conditions lower casefold clusterId window hquery (key.pk clusterId) s t

/-- The keys of the edges a query sums up: those of the buckets it accepts. -/
theorem mem_answerOf_regroup {κ : Type} {entries : List (κ × Bucket)} {g : κ → Option EdgeKey}
    {k : EdgeKey} : k ∈ (answerOf (regroup g entries)).map EdgeAggregate.key ↔
      ∃ e ∈ entries, g e.1 = some k := by
  rw [mem_answerOf_keys, regroup, List.map_filterMap, List.mem_filterMap]
  simp only [Option.map_map, Function.comp_def, Option.map_id']

/-- The edges a query finds: those of the buckets in the window whose nodes pass. -/
theorem mem_queryEdges_keys_iff (casefold : String → String) (repo : InMemoryRepository)
    (window : ResolvedWindow) (filters : EdgeFilters) {k : EdgeKey} :
    k ∈ (repo.queryEdges casefold window filters).map EdgeAggregate.key ↔
      ∃ key ∈ repo.buckets.keys, key.edge = k ∧ window.contains key.bucketStart = true ∧
        ∃ s t, repo.nodes.get? k.sourceId = some s ∧ repo.nodes.get? k.targetId = some t ∧
          viewsPass casefold s.view t.view filters = true := by
  have haccepts : ∀ key : BucketKey, repo.accepts casefold window filters key = some k ↔
      key.edge = k ∧ window.contains key.bucketStart = true ∧
        ∃ s t, repo.nodes.get? k.sourceId = some s ∧ repo.nodes.get? k.targetId = some t ∧
          viewsPass casefold s.view t.view filters = true := by
    intro key
    unfold InMemoryRepository.accepts passes
    by_cases hk : key.edge = k
    · subst hk
      cases repo.nodes.get? key.edge.sourceId with
      | none => simp
      | some s =>
        cases repo.nodes.get? key.edge.targetId with
        | none => simp
        | some t => simp
    · simp [hk]
  rw [queryEdges_eq_answerOf, mem_answerOf_regroup]
  constructor
  · rintro ⟨e, he, hk⟩
    exact ⟨e.1, List.mem_map_of_mem he, (haccepts e.1).mp hk⟩
  · rintro ⟨key, hkey, hk⟩
    obtain ⟨b, hb⟩ := Dict.mem_keys_iff.mp hkey
    exact ⟨(key, b), Dict.get?_eq_some_iff.mp hb, (haccepts key).mpr hk⟩

/-- The edges an unfiltered query finds: those of the buckets in the window whose nodes are
    both known. -/
theorem mem_queryEdges_keys (casefold : String → String) (repo : InMemoryRepository)
    (window : ResolvedWindow) {k : EdgeKey} :
    k ∈ (repo.queryEdges casefold window {}).map EdgeAggregate.key ↔
      ∃ key ∈ repo.buckets.keys, key.edge = k ∧ window.contains key.bucketStart = true ∧
        ∃ s t, repo.nodes.get? k.sourceId = some s ∧ repo.nodes.get? k.targetId = some t := by
  rw [mem_queryEdges_keys_iff]
  have hpass : ∀ s t : NodeView, viewsPass casefold s t {} = true := fun _ _ => by simp [viewsPass]
  simp only [hpass, and_true]

/-- The namespaces that the in-memory store lists: the non-empty ones of the endpoints in the
    window. -/
theorem mem_listNamespaces (casefold : String → String) (repo : InMemoryRepository)
    (window : ResolvedWindow) {ns : String} :
    ns ∈ repo.listNamespaces casefold window ↔
      ns ≠ "" ∧ ∃ k ∈ (repo.queryEdges casefold window {}).map EdgeAggregate.key,
        ∃ n, (repo.nodes.get? k.sourceId = some n ∨ repo.nodes.get? k.targetId = some n) ∧
          n.namespace = some ns := by
  have hkeep : ∀ n : StoredNode, n.namespace.filter (fun ns => ns != "") = some ns ↔
      n.namespace = some ns ∧ ns ≠ "" := by
    intro n
    rw [Option.filter_eq_some_iff, bne_iff_ne]
  unfold listNamespaces
  simp only
  rw [mem_sortOn, List.mem_dedup, List.mem_flatMap]
  simp only [List.mem_map]
  constructor
  · rintro ⟨a, ha, hns⟩
    obtain ⟨nid, hnid, hfound⟩ := List.mem_filterMap.mp hns
    cases hn : repo.nodes.get? nid with
    | none =>
      rw [hn] at hfound
      cases hfound
    | some n =>
      rw [hn] at hfound
      obtain ⟨hnns, hne⟩ := (hkeep n).mp hfound
      refine ⟨hne, a.key, ⟨a, ha, rfl⟩, n, ?_, hnns⟩
      simp only [List.mem_cons, List.not_mem_nil, or_false] at hnid
      rcases hnid with rfl | rfl
      · exact Or.inl hn
      · exact Or.inr hn
  · rintro ⟨hne, k, ⟨a, ha, rfl⟩, n, hn, hnns⟩
    refine ⟨a, ha, List.mem_filterMap.mpr ?_⟩
    rcases hn with hn | hn
    · refine ⟨a.key.sourceId, by simp, ?_⟩
      rw [hn]
      exact (hkeep n).mpr ⟨hnns, hne⟩
    · refine ⟨a.key.targetId, by simp, ?_⟩
      rw [hn]
      exact (hkeep n).mpr ⟨hnns, hne⟩

theorem listNamespaces_strict (casefold : String → String) (repo : InMemoryRepository)
    (window : ResolvedWindow) : (repo.listNamespaces casefold window).Pairwise (· < ·) :=
  sortOn_dedup_strict _

/-- **`list_namespaces`** answers alike on the non-empty namespaces. -/
theorem Matches.listNamespaces (h : Matches clusterId seen kept repo db)
    (casefold : String → String) (window : ResolvedWindow) :
    repo.listNamespaces casefold window =
      (db.listNamespaces clusterId window).filter (fun ns => ns ≠ "") := by
  apply strict_eq_of_mem_iff (listNamespaces_strict casefold repo window)
    ((Database.listNamespaces_strict clusterId db window).filter _)
  intro ns
  rw [mem_listNamespaces, List.mem_filter, Database.mem_listNamespaces, decide_eq_true_iff, and_comm]
  apply and_congr_left
  intro _
  constructor
  · rintro ⟨k, hk, n, hn, hns⟩
    obtain ⟨key, hkey, rfl, hwindow, -⟩ := (mem_queryEdges_keys casefold repo window).mp hk
    have hpk : key.pk clusterId ∈ db.edgeBuckets.keys :=
      h.buckets.keys.mem_iff.mpr (List.mem_map_of_mem hkey)
    refine ⟨key.pk clusterId, hpk, rfl, hwindow, n, ?_, hns⟩
    rw [h.nodes, h.nodes]
    exact hn
  · rintro ⟨pk, hpk, -, hwindow, n, hn, hns⟩
    obtain ⟨key, hkey, rfl⟩ := List.mem_map.mp (h.buckets.keys.mem_iff.mp hpk)
    -- the foreign keys make both endpoints known
    obtain ⟨b, hb⟩ := Dict.mem_keys_iff.mp hpk
    obtain ⟨hs, ht⟩ := db.references _ b hb
    obtain ⟨s, hs⟩ := Option.isSome_iff_exists.mp hs
    obtain ⟨t, ht⟩ := Option.isSome_iff_exists.mp ht
    rw [h.nodes] at hs ht
    rw [h.nodes, h.nodes] at hn
    exact ⟨key.edge, (mem_queryEdges_keys casefold repo window).mpr
      ⟨key, hkey, rfl, hwindow, s, t, hs, ht⟩, n, hn, hns⟩

/-- **`nodes_for`** finds the same nodes. -/
theorem Matches.nodesFor (h : Matches clusterId seen kept repo db) (nodeIds : List String) :
    (db.nodesFor nodeIds).Perm (repo.nodesFor nodeIds) := by
  have hdb : db.nodesFor nodeIds = db.nodes.entries.filter (fun e => e.1 ∈ nodeIds) := by
    unfold Database.nodesFor
    have hid : ∀ e ∈ db.nodes.entries, e.2.id = e.1 := fun e he =>
      db.ids e.1 e.2 (Dict.get?_eq_some_iff.mpr he)
    rw [List.filter_congr (fun e he => by rw [hid e he])]
    rw [List.map_congr_left (g := id), List.map_id]
    intro e he
    exact Prod.ext (hid e (List.mem_filter.mp he).1) rfl
  have hnodup : (repo.nodesFor nodeIds).Nodup := by
    apply (List.nodup_dedup nodeIds).filterMap
    intro nid nid' e he he'
    rw [Option.mem_def, Option.map_eq_some_iff] at he he'
    obtain ⟨n, -, rfl⟩ := he
    obtain ⟨n', -, heq⟩ := he'
    exact (congrArg Prod.fst heq).symm
  rw [hdb]
  apply (List.perm_ext_iff_of_nodup (db.nodes.entries_nodup.filter _) hnodup).mpr
  rintro ⟨nid, n⟩
  unfold InMemoryRepository.nodesFor
  rw [List.mem_filter, ← Dict.get?_eq_some_iff, h.nodes, List.mem_filterMap]
  simp only [List.mem_dedup, Option.map_eq_some_iff, Prod.mk.injEq, decide_eq_true_iff]
  constructor
  · rintro ⟨hn, hmem⟩
    exact ⟨nid, hmem, n, hn, rfl, rfl⟩
  · rintro ⟨nid', hmem, n', hn, rfl, rfl⟩
    exact ⟨hn, hmem⟩

end reads

end TopologyVisualizer.Backend
