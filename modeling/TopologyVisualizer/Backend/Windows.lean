import TopologyVisualizer.Backend.MemoryOrder

/-! # Windows

    The checks of `app/domain/window.py` on windows, and what half-open
    windows buy: a query over `[a, c)` is the key-wise merge of the queries
    over `[a, b)` and `[b, c)` (`windows_tile`), and two periods that
    `validate_diff_periods` accepts share no bucket.
-/

namespace TopologyVisualizer.Backend

open InMemoryRepository

/-! ### Validation -/

/-- `validate_diff_periods`. -/
def validateDiffPeriods (baseline current : ResolvedWindow) : Except String Unit :=
  if baseline.start < current.end ∧ current.start < baseline.end then
    .error ("baseline and current periods overlap; the shared interval would be counted " ++
      "on both sides of the comparison")
  else .ok ()

theorem contains_iff {w : ResolvedWindow} {moment : Datetime} :
    w.contains moment = true ↔ w.start ≤ moment ∧ moment < w.end :=
  decide_eq_true_iff

/-- Periods that pass have no instant in common. -/
theorem disjoint_of_validated {baseline current : ResolvedWindow}
    (h : validateDiffPeriods baseline current = .ok ()) (moment : Datetime) :
    ¬ (baseline.contains moment = true ∧ current.contains moment = true) := by
  rintro ⟨hb, hc⟩
  rw [contains_iff] at hb hc
  have hoverlap : baseline.start < current.end ∧ current.start < baseline.end :=
    ⟨hb.1.trans_lt hc.2, hc.1.trans_lt hb.2⟩
  unfold validateDiffPeriods at h
  rw [if_pos hoverlap] at h
  cases h

/-! ### Merging answers -/

/-- Two aggregates of one edge: counts add, nullable sums are null only when both are, the
    interval is the smallest around both. -/
def EdgeAggregate.merge (x y : EdgeAggregate) : EdgeAggregate where
  key := x.key
  connectionCount := x.connectionCount + y.connectionCount
  firstSeen := min x.firstSeen y.firstSeen
  lastSeen := max x.lastSeen y.lastSeen
  failedConnectionCount := addMeasured x.failedConnectionCount y.failedConnectionCount
  connectLatencyCount := x.connectLatencyCount + y.connectLatencyCount
  connectLatencySumUs := x.connectLatencySumUs + y.connectLatencySumUs
  bytesSent := addMeasured x.bytesSent y.bytesSent
  bytesReceived := addMeasured x.bytesReceived y.bytesReceived

/-- The aggregate of a key, if the answer has one. -/
def aggregateOf (answer : List EdgeAggregate) (k : EdgeKey) : Option EdgeAggregate :=
  answer.find? (fun a => a.key = k)

/-- What two answers say together about a key. -/
def mergeAt (x y : Option EdgeAggregate) : Option EdgeAggregate :=
  match x, y with
  | none, y => y
  | x, none => x
  | some x, some y => some (x.merge y)

/-- The key-wise merge of two answers: a key of either, merged where both have it. -/
def mergeByKey (xs ys : List EdgeAggregate) : List EdgeAggregate :=
  sortOn EdgeAggregate.key
    (((xs ++ ys).map EdgeAggregate.key).dedup.filterMap
      (fun k => mergeAt (aggregateOf xs k) (aggregateOf ys k)))

theorem key_of_aggregateOf {answer : List EdgeAggregate} {k : EdgeKey} {a : EdgeAggregate}
    (h : aggregateOf answer k = some a) : a ∈ answer ∧ a.key = k := by
  refine ⟨List.mem_of_find?_eq_some h, ?_⟩
  simpa using List.find?_some h

theorem key_of_mergeAt {xs ys : List EdgeAggregate} {k : EdgeKey} {a : EdgeAggregate}
    (h : mergeAt (aggregateOf xs k) (aggregateOf ys k) = some a) :
    a.key = k ∧ k ∈ (xs ++ ys).map EdgeAggregate.key := by
  cases hx : aggregateOf xs k with
  | none =>
    rw [hx] at h
    have hy : aggregateOf ys k = some a := h
    obtain ⟨hmem, hkey⟩ := key_of_aggregateOf hy
    exact ⟨hkey, List.mem_map.mpr ⟨a, List.mem_append_right _ hmem, hkey⟩⟩
  | some x =>
    obtain ⟨hmem, hkey⟩ := key_of_aggregateOf hx
    have hunion : k ∈ (xs ++ ys).map EdgeAggregate.key :=
      List.mem_map.mpr ⟨x, List.mem_append_left _ hmem, hkey⟩
    cases hy : aggregateOf ys k with
    | none =>
      rw [hx, hy] at h
      cases h
      exact ⟨hkey, hunion⟩
    | some y =>
      rw [hx, hy] at h
      cases h
      exact ⟨hkey, hunion⟩

theorem mem_mergeByKey {xs ys : List EdgeAggregate} {a : EdgeAggregate} :
    a ∈ mergeByKey xs ys ↔ mergeAt (aggregateOf xs a.key) (aggregateOf ys a.key) = some a := by
  unfold mergeByKey
  rw [mem_sortOn, List.mem_filterMap]
  constructor
  · rintro ⟨k, -, hk⟩
    rw [(key_of_mergeAt hk).1]
    exact hk
  · intro h
    exact ⟨a.key, List.mem_dedup.mpr (key_of_mergeAt h).2, h⟩

theorem mergeByKey_strict (xs ys : List EdgeAggregate) :
    ((mergeByKey xs ys).map EdgeAggregate.key).Pairwise (· < ·) := by
  apply sortOn_strict
  -- the keys are those of the union that merge to something, in the order of the union
  rw [List.map_filterMap]
  refine List.Nodup.filterMap ?_ (List.nodup_dedup _)
  intro k k' key hk hk'
  simp only [Option.mem_def, Option.map_eq_some_iff] at hk hk'
  obtain ⟨a, ha, rfl⟩ := hk
  obtain ⟨a', ha', hkey⟩ := hk'
  rw [← (key_of_mergeAt ha).1, ← (key_of_mergeAt ha').1, hkey]

/-! ### Answers as functions of the key -/

theorem aggregateOf_eq_some_iff {answer : List EdgeAggregate}
    (hnd : (answer.map EdgeAggregate.key).Nodup) {a : EdgeAggregate} :
    aggregateOf answer a.key = some a ↔ a ∈ answer := by
  constructor
  · intro h
    exact (key_of_aggregateOf h).1
  · intro ha
    cases hfind : aggregateOf answer a.key with
    | none => exact absurd (List.find?_eq_none.mp hfind a ha) (by simp)
    | some a' =>
      obtain ⟨hmem, hkey⟩ := key_of_aggregateOf hfind
      rw [List.inj_on_of_nodup_map hnd hmem ha hkey]

/-- An answer holds, at each key, the sum of the buckets accepted there. -/
theorem aggregateOf_answerOf (l : List (EdgeKey × Bucket)) (k : EdgeKey) :
    aggregateOf (answerOf l) k =
      Option.map (fun v => toAggregate (k, v)) (keyedSum l k : Option Bucket) := by
  cases hsum : keyedSum l k using WithZero.recZeroCoe with
  | zero =>
    cases hfind : aggregateOf (answerOf l) k with
    | none => rfl
    | some a =>
      obtain ⟨hmem, rfl⟩ := key_of_aggregateOf hfind
      obtain ⟨v, hv, -⟩ := mem_answerOf.mp hmem
      rw [hsum] at hv
      exact absurd hv.symm WithZero.coe_ne_zero
  | coe v =>
    have hmem : toAggregate (k, v) ∈ answerOf l := mem_answerOf.mpr ⟨v, hsum, rfl⟩
    exact (aggregateOf_eq_some_iff (answerOf_sorted l).nodup).mpr hmem

/-- **Merging answers** is answering to both lists of buckets. -/
theorem answerOf_append (l l' : List (EdgeKey × Bucket)) :
    answerOf (l ++ l') = mergeByKey (answerOf l) (answerOf l') := by
  apply strict_on_eq_of_mem_iff (answerOf_sorted _) (mergeByKey_strict _ _)
  intro a
  rw [← aggregateOf_eq_some_iff (answerOf_sorted _).nodup, mem_mergeByKey, aggregateOf_answerOf,
    aggregateOf_answerOf, aggregateOf_answerOf, keyedSum_append]
  cases keyedSum l a.key using WithZero.recZeroCoe with
  | zero =>
    rw [zero_add]
    rfl
  | coe v =>
    cases keyedSum l' a.key using WithZero.recZeroCoe with
    | zero =>
      rw [add_zero]
      rfl
    | coe w => rfl

/-! ### Tiling -/

/-- A bucket of `[a, c)` is in exactly one of the two halves. -/
theorem contains_split {a b c : Datetime} (hab : a ≤ b) (hbc : b ≤ c) (moment : Datetime) :
    (ResolvedWindow.contains ⟨a, c⟩ moment = true ↔
      ResolvedWindow.contains ⟨a, b⟩ moment = true ∨ ResolvedWindow.contains ⟨b, c⟩ moment = true) ∧
    ¬ (ResolvedWindow.contains ⟨a, b⟩ moment = true ∧
      ResolvedWindow.contains ⟨b, c⟩ moment = true) := by
  simp only [contains_iff]
  constructor
  · constructor
    · rintro ⟨hstart, hend⟩
      by_cases hm : moment < b
      · exact .inl ⟨hstart, hm⟩
      · exact .inr ⟨not_lt.mp hm, hend⟩
    · rintro (⟨hstart, hend⟩ | ⟨hstart, hend⟩)
      · exact ⟨hstart, hend.trans_le hbc⟩
      · exact ⟨hab.trans hstart, hend⟩
  · rintro ⟨⟨-, hlt⟩, hle, -⟩
    exact absurd hlt (not_lt.mpr hle)

/-- The buckets accepted in `[a, c)` have the sums of those accepted in the halves. -/
theorem keyedSum_accepts_split (casefold : String → String) (repo : InMemoryRepository)
    (filters : EdgeFilters) {a b c : Datetime} (hab : a ≤ b) (hbc : b ≤ c)
    (entries : List (BucketKey × Bucket)) (k : EdgeKey) :
    keyedSum (regroup (repo.accepts casefold ⟨a, c⟩ filters) entries) k =
      keyedSum (regroup (repo.accepts casefold ⟨a, b⟩ filters) entries ++
        regroup (repo.accepts casefold ⟨b, c⟩ filters) entries) k := by
  induction entries with
  | nil => rfl
  | cons e entries ih =>
    rw [keyedSum_append] at ih ⊢
    rw [keyedSum_regroup_cons, keyedSum_regroup_cons, keyedSum_regroup_cons, ih]
    have hhead : (if repo.accepts casefold ⟨a, c⟩ filters e.1 = some k then
          (e.2 : WithZero Bucket) else 0) =
        (if repo.accepts casefold ⟨a, b⟩ filters e.1 = some k then (e.2 : WithZero Bucket) else 0) +
          (if repo.accepts casefold ⟨b, c⟩ filters e.1 = some k then
            (e.2 : WithZero Bucket) else 0) := by
      obtain ⟨hsplit, hnotboth⟩ := contains_split hab hbc e.1.bucketStart
      unfold InMemoryRepository.accepts
      by_cases hleft : ResolvedWindow.contains ⟨a, b⟩ e.1.bucketStart = true
      · have hright : ResolvedWindow.contains ⟨b, c⟩ e.1.bucketStart = false :=
          Bool.eq_false_iff.mpr fun h => hnotboth ⟨hleft, h⟩
        rw [hleft, hright, hsplit.mpr (.inl hleft)]
        simp
      · have hleft' := Bool.eq_false_iff.mpr hleft
        by_cases hright : ResolvedWindow.contains ⟨b, c⟩ e.1.bucketStart = true
        · rw [hleft', hright, hsplit.mpr (.inr hright)]
          simp
        · have hwhole : ResolvedWindow.contains ⟨a, c⟩ e.1.bucketStart = false :=
            Bool.eq_false_iff.mpr fun h => (hsplit.mp h).elim hleft hright
          rw [hleft', hwhole, Bool.eq_false_iff.mpr hright]
          simp
    rw [hhead]
    exact add_add_add_comm _ _ _ _

/-- A query reads no bucket outside its window. -/
theorem queryEdges_restrict (casefold : String → String) (repo : InMemoryRepository)
    (window : ResolvedWindow) (filters : EdgeFilters) :
    repo.queryEdges casefold window filters =
      ({ repo with buckets :=
        repo.buckets.filter (fun key _ => window.contains key.bucketStart) } :
          InMemoryRepository).queryEdges casefold window filters := by
  rw [queryEdges_eq_answerOf, queryEdges_eq_answerOf]
  congr 1
  show _ = regroup _ (repo.buckets.entries.filter (fun e => window.contains e.1.bucketStart))
  unfold regroup
  rw [List.filterMap_filter]
  apply List.filterMap_congr
  intro e _
  by_cases hin : window.contains e.1.bucketStart = true
  · rw [if_pos hin]
    rfl
  · rw [if_neg hin]
    unfold InMemoryRepository.accepts
    rw [Bool.eq_false_iff.mpr hin]
    rfl

/-- **Tiling**: for every store, filter and cut, the answer over `[a, c)` is the key-wise merge
    of the answers over `[a, b)` and `[b, c)`. And for two periods that pass
    `validate_diff_periods`, each is answered from the buckets inside it alone, while no
    observation is filed in a bucket inside both. -/
theorem windows_tile (casefold : String → String) (repo : InMemoryRepository)
    (filters : EdgeFilters) :
    (∀ a b c : Datetime, a ≤ b → b ≤ c →
      repo.queryEdges casefold ⟨a, c⟩ filters =
        mergeByKey (repo.queryEdges casefold ⟨a, b⟩ filters)
          (repo.queryEdges casefold ⟨b, c⟩ filters)) ∧
    ∀ baseline current : ResolvedWindow, validateDiffPeriods baseline current = .ok () →
      (∀ window ∈ [baseline, current],
        repo.queryEdges casefold window filters =
          ({ repo with buckets :=
            repo.buckets.filter (fun key _ => window.contains key.bucketStart) } :
              InMemoryRepository).queryEdges casefold window filters) ∧
      ∀ e : EdgeObservation, ¬ (baseline.contains e.bucketKey.bucketStart = true ∧
        current.contains e.bucketKey.bucketStart = true) := by
  constructor
  · intro a b c hab hbc
    rw [queryEdges_eq_answerOf, queryEdges_eq_answerOf, queryEdges_eq_answerOf, ← answerOf_append]
    exact answerOf_congr (keyedSum_accepts_split casefold repo filters hab hbc _)
  · intro baseline current hvalid
    constructor
    · intro window _
      exact queryEdges_restrict casefold repo window filters
    · intro e
      exact disjoint_of_validated hvalid _

/-- Three connections in one minute and one in the next, cut between the minutes. -/
theorem windows_tile_two_minutes :
    ((InMemoryRepository.new "c").ingestAll [sampleBatchA, sampleBatchC]).queryEdges id
        ⟨0, 120000000⟩ {} =
      mergeByKey
        (((InMemoryRepository.new "c").ingestAll [sampleBatchA, sampleBatchC]).queryEdges id
          ⟨0, 60000000⟩ {})
        (((InMemoryRepository.new "c").ingestAll [sampleBatchA, sampleBatchC]).queryEdges id
          ⟨60000000, 120000000⟩ {}) ∧
    (((InMemoryRepository.new "c").ingestAll [sampleBatchA, sampleBatchC]).queryEdges id
      ⟨0, 120000000⟩ {}).map EdgeAggregate.connectionCount = [4] ∧
    ¬ (ResolvedWindow.contains ⟨0, 60000000⟩ sampleEdgeC.bucketKey.bucketStart = true ∧
      ResolvedWindow.contains ⟨60000000, 120000000⟩ sampleEdgeC.bucketKey.bucketStart = true) := by
  have htile := windows_tile id ((InMemoryRepository.new "c").ingestAll [sampleBatchA, sampleBatchC])
    {}
  refine ⟨htile.1 0 60000000 120000000 (by decide) (by decide), by decide, ?_⟩
  exact (htile.2 ⟨0, 60000000⟩ ⟨60000000, 120000000⟩ rfl).2 sampleEdgeC

end TopologyVisualizer.Backend
