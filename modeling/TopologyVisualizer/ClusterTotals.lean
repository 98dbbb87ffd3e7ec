import Mathlib.Data.List.Flatten
import Mathlib.Data.List.Perm.Subperm
import TopologyVisualizer.Cluster
import TopologyVisualizer.Agent.Conservation

/-! # What Edge Queries Show of What Was Observed

    From the observations the agents accepted to the numbers of an edge
    query, through aggregation, serialisation, redelivery and the store. What
    is followed on this way is a `Measure`: the counts of successes, failures
    and samples, or the sum of the latencies.

    * The query answers with the totals of the intervals that were merged,
      each counted once, and these are part of what was accepted
      (`graph_shows_reported`).
    * When no agent holds, dropped or was refused a batch, it answers with
      the totals of everything accepted (`graph_shows_everything`).

    Totals are integers. An agent adds latencies in 64 bits, so theirs agree
    if what was measured for an edge in one interval fits (`Unwrapped`). The
    store is the in-memory one without `purge_expired`, and the query is
    `query_edges`, before the caps of a graph response.
-/

namespace TopologyVisualizer

/-- An edge in the agent's words: source, target, protocol and port. -/
abbrev SortKey := String ×ₗ String ×ₗ String ×ₗ Int

/-! ### Measures -/

/-- The key in the agent's words. -/
def Backend.EdgeKey.sortKey (k : Backend.EdgeKey) : SortKey :=
  toLex (k.sourceId, toLex (k.targetId, toLex (k.protocol.name, (k.destinationPort : Int))))

/-- A quantity of the connections of an edge, as each party has it. -/
structure Measure (ν : Type) [AddCommSemigroup ν] where
  observed : Agent.Observation → ν
  sent : Agent.EdgeObservation → ν
  stored : Backend.Bucket → ν
  shown : Backend.EdgeAggregate → ν
  /-- The store adds it up. -/
  stored_add : ∀ a b, stored (a + b) = stored a + stored b
  /-- It arrives as it was sent. -/
  stored_ofEdge : ∀ {e : Agent.EdgeObservation} {o : Backend.EdgeObservation},
    Wire.CountsDenote e o → stored (Backend.Bucket.ofEdge o) = sent e
  /-- It is shown as it is stored. -/
  shown_toAggregate : ∀ entry,
    shown (Backend.InMemoryRepository.toAggregate entry) = stored entry.2

namespace Measure

/-- Successes, failures and latency samples. -/
def counts : Measure Agent.Counts where
  observed := Agent.Observation.counts
  sent := Agent.EdgeObservation.counts
  stored b := ⟨b.connectionCount, (b.failedConnectionCount.getD 0 : Nat), b.connectLatencyCount⟩
  shown a := ⟨a.connectionCount, (a.failedConnectionCount.getD 0 : Nat), a.connectLatencyCount⟩
  stored_add a b := by
    have hfailed : (a + b).failedConnectionCount.getD 0 =
        a.failedConnectionCount.getD 0 + b.failedConnectionCount.getD 0 :=
      Backend.addMeasured_getD _ _
    rw [hfailed, Agent.Counts.add_def, Nat.cast_add]
    congr 1
  stored_ofEdge {e o} h := by
    have hfailed : ((o.failedConnectionCount.getD 0 : Nat) : Int) =
        e.failedConnectionCount.getD 0 := by
      rw [← h.failedConnectionCount]
      cases o.failedConnectionCount <;> rfl
    show Agent.Counts.mk o.connectionCount (o.failedConnectionCount.getD 0 : Nat)
      o.connectLatencyCount = _
    rw [h.connectionCount, hfailed, h.connectLatencyCount]
    rfl
  shown_toAggregate _ := rfl

/-- The sum of the latencies in microseconds. -/
def latency : Measure Int where
  observed := Agent.Observation.latencyUS
  sent := Agent.EdgeObservation.connectLatencySumUS
  stored b := b.connectLatencySumUs
  shown a := a.connectLatencySumUs
  stored_add _ _ := Nat.cast_add _ _
  stored_ofEdge h := h.connectLatencySumUS
  shown_toAggregate _ := rfl

variable {ν : Type} [AddCommSemigroup ν] (μ : Measure ν)

/-- What an answer says about an edge; zero when the edge is not in it. -/
def answered (answer : List Backend.EdgeAggregate) (k : SortKey) : WithZero ν :=
  keyedSum (answer.map (fun a => (a.key.sortKey, μ.shown a))) k

/-- The total of the observations of an edge; zero when there is none. -/
def total (os : List Agent.Observation) (k : SortKey) : WithZero ν :=
  keyedSum (os.map (fun o => (o.key.sortKey, μ.observed o))) k

/-- What the edges of a batch say about an edge of the graph. -/
def arrived (es : List Backend.EdgeObservation) (k : SortKey) : WithZero ν :=
  keyedSum (es.map (fun e => (e.key.sortKey, μ.stored (Backend.Bucket.ofEdge e)))) k

end Measure

variable {ν : Type} [AddCommSemigroup ν] {μ : Measure ν}

/-! ### In the store -/

namespace Backend

open InMemoryRepository

theorem answered_answerOf (l : List (EdgeKey × Bucket)) (k : SortKey) :
    μ.answered (answerOf l) k = keyedSum (l.map (fun e => (e.1.sortKey, μ.stored e.2))) k := by
  unfold Measure.answered answerOf
  rw [keyedSum_perm ((sortOn_perm _ _).map _), List.map_map]
  simp only [Function.comp_def, μ.shown_toAggregate]
  exact Dict.keyedSum_entries_sumInto EdgeKey.sortKey μ.stored_add l k

theorem foldl_mergeBatch_buckets (repo : InMemoryRepository) (bs : List IngestBatch) :
    (bs.foldl mergeBatch repo).buckets =
      repo.buckets.sumInto (bs.flatMap IngestBatch.contributions) := by
  induction bs generalizing repo with
  | nil => rfl
  | cons b bs ih =>
    rw [List.foldl_cons, ih, mergeBatch_buckets, List.flatMap_cons]
    exact (List.foldl_append ..).symm

/-- Every merged edge falls into the window. -/
def Covers (window : ResolvedWindow) (bs : List IngestBatch) : Prop :=
  ∀ e ∈ bs.flatMap IngestBatch.edges, window.contains (bucketStart e.lastSeen) = true

/-- An unfiltered query over everything leaves out no bucket. -/
theorem accepts_of_covers (casefold : String → String) (clusterId : String)
    {window : ResolvedWindow} {bs : List IngestBatch} (hcovers : Covers window bs)
    {entry : BucketKey × Bucket}
    (hentry : entry ∈ (bs.foldl mergeBatch (.new clusterId)).buckets.entries) :
    (bs.foldl mergeBatch (.new clusterId)).accepts casefold window {} entry.1 =
      some entry.1.edge := by
  -- the key is that of a merged edge
  have hkey : entry.1 ∈ (bs.flatMap IngestBatch.contributions).map Prod.fst := by
    have hmem : entry.1 ∈ (bs.foldl mergeBatch (.new clusterId)).buckets.keys :=
      List.mem_map_of_mem hentry
    rw [foldl_mergeBatch_buckets, Dict.mem_keys_sumInto] at hmem
    exact hmem.resolve_left (by simp [InMemoryRepository.new, Dict.keys, Dict.empty])
  obtain ⟨c, hc, hcentry⟩ := List.mem_map.mp hkey
  obtain ⟨b, hb, hcb⟩ := List.mem_flatMap.mp hc
  obtain ⟨e, he, rfl⟩ := List.mem_map.mp hcb
  have hein : e ∈ bs.flatMap IngestBatch.edges := List.mem_flatMap.mpr ⟨b, hb, he⟩
  -- and the nodes of a merged edge are known
  have hdescribes := Describes.foldl_mergeBatch (.new clusterId) Describes.empty bs
  have hknown : ∀ r ∈ bs.flatMap IngestBatch.nodeRefs,
      ∃ n, (bs.foldl mergeBatch (.new clusterId)).nodes.get? r.id = some n := by
    intro r hr
    exact Dict.mem_keys_iff.mp ((hdescribes.known r.id).mpr ⟨r, by simpa using hr, rfl⟩)
  obtain ⟨source, hsource⟩ := hknown e.source (mem_nodeRefs hein).1
  obtain ⟨target, htarget⟩ := hknown e.target (mem_nodeRefs hein).2
  have hpasses : (bs.foldl mergeBatch (.new clusterId)).passes casefold e.source.id e.target.id
      {} = true := by
    unfold passes
    rw [hsource, htarget]
    rfl
  rw [← hcentry]
  unfold accepts
  rw [if_pos]
  show (window.contains (bucketStart e.lastSeen) && _) = true
  rw [hcovers e hein]
  exact hpasses

/-- **An edge query** over everything answers with what the merged edges say. -/
theorem answered_queryEdges (casefold : String → String) (clusterId : String)
    {window : ResolvedWindow} {bs : List IngestBatch} (hcovers : Covers window bs) (k : SortKey) :
    μ.answered ((bs.foldl mergeBatch (.new clusterId)).queryEdges casefold window {}) k =
      μ.arrived (bs.flatMap IngestBatch.edges) k := by
  have hregroup : regroup ((bs.foldl mergeBatch (.new clusterId)).accepts casefold window {})
      (bs.foldl mergeBatch (.new clusterId)).buckets.entries =
      (bs.foldl mergeBatch (.new clusterId)).buckets.entries.map (fun e => (e.1.edge, e.2)) := by
    unfold regroup
    rw [← List.filterMap_eq_map]
    refine List.filterMap_congr ?_
    intro entry hentry
    rw [accepts_of_covers casefold clusterId hcovers hentry]
    rfl
  have hcontributions : (bs.flatMap IngestBatch.contributions).map
      (fun e => (e.1.edge.sortKey, μ.stored e.2)) =
      (bs.flatMap IngestBatch.edges).map (fun e => (e.key.sortKey, μ.stored (Bucket.ofEdge e))) := by
    rw [List.map_flatMap, List.map_flatMap]
    refine List.flatMap_congr ?_
    intro b _
    unfold IngestBatch.contributions
    rw [List.map_map]
    rfl
  rw [queryEdges_eq_answerOf, answered_answerOf, hregroup, List.map_map, foldl_mergeBatch_buckets,
    Measure.arrived, ← hcontributions]
  exact Dict.keyedSum_entries_sumInto (fun key : BucketKey => key.edge.sortKey) μ.stored_add _ k

end Backend

/-! ### On the wire -/

namespace Wire

open Agent Process

/-- The entries of an aggregator add up what they collect of these observations. -/
def Accumulated (μ : Measure ν) (os : List Observation) : Prop := AccumulatesOn μ.sent μ.observed os

/-- **What arrives** of a flushed batch says what its interval says. -/
theorem arrived_of_carries {b : Agent.IngestBatch} {os : List Observation} (h : Carries b os)
    (hacc : Accumulated μ os) {body : Json} {r : Backend.IngestBatch} (hbody : marshal b = .ok body)
    (hparse : parse body = some r) (k : SortKey) : μ.arrived r.edges k = μ.total os k := by
  have hread : b.edges.map (fun e => (e.sortKey, μ.sent e)) =
      r.edges.map (fun e => (e.key.sortKey, μ.stored (Backend.Bucket.ofEdge e))) := by
    rw [← List.forall₂_eq_eq_eq, List.forall₂_map_left_iff, List.forall₂_map_right_iff]
    refine (edges_of_parse_marshal hbody hparse).imp ?_
    rintro e o ⟨hkey, hcounts⟩
    rw [μ.stored_ofEdge hcounts]
    refine Prod.ext ?_ rfl
    show _ = toLex (o.source.id, toLex (o.target.id, toLex (o.protocol.name, (o.destinationPort : Int))))
    rw [hkey.source, hkey.target, hkey.protocol, hkey.port]
    rfl
  rw [Measure.arrived, ← hread, h, keyedSum_perm ((sortOn_perm _ _).map _)]
  exact keyedSum_pending hacc k

end Wire

/-! ### Intervals and merges -/

namespace Cluster

open LTS Wire Agent Backend

universe u

variable {Node : Type u}

/-- The observations that went into a batch of an agent. -/
def intervalOf (a : Process.State) (b : Agent.IngestBatch) : List Observation :=
  (a.history.flushes.filter (fun f => f.1 = b)).flatMap Prod.snd

/-- The observations of the merged batches. -/
def State.reported (s : State Node) : List Observation :=
  s.merges.flatMap (fun m => intervalOf (s.agents m.node) m.sent)

/-- No two flushes, of one agent or of two, drew the same ULID. -/
structure State.Distinct (s : State Node) : Prop where
  within : ∀ n, ((s.agents n).history.flushes.map (fun f => f.1.batchID)).Nodup
  across : ∀ n, ∀ f ∈ (s.agents n).history.flushes, ∀ m, ∀ g ∈ (s.agents m).history.flushes,
    f.1.batchID = g.1.batchID → n = m

variable {s : State Node}

theorem State.Distinct.eq_of_id (h : s.Distinct) {n : Node}
    {f g : Agent.IngestBatch × List Observation} (hf : f ∈ (s.agents n).history.flushes)
    (hg : g ∈ (s.agents n).history.flushes) (hid : f.1.batchID = g.1.batchID) : f = g :=
  List.inj_on_of_nodup_map (h.within n) hf hg hid

/-- The interval of a flushed batch is the one it was flushed with. -/
theorem State.Distinct.intervalOf_eq (h : s.Distinct) {n : Node}
    {f : Agent.IngestBatch × List Observation} (hf : f ∈ (s.agents n).history.flushes) :
    intervalOf (s.agents n) f.1 = f.2 := by
  have hfilter : (s.agents n).history.flushes.filter (fun g => g.1 = f.1) =
      (s.agents n).history.flushes.filter (fun g => g == f) := by
    refine List.filter_congr ?_
    intro g hg
    have hiff : g.1 = f.1 ↔ g = f :=
      ⟨fun heq => h.eq_of_id hg hf (by rw [heq]), fun heq => by rw [heq]⟩
    rw [Bool.eq_iff_iff, decide_eq_true_iff, beq_iff_eq]
    exact hiff
  have honce : (s.agents n).history.flushes.count f = 1 :=
    List.count_eq_one_of_mem ((h.within n).of_map _) hf
  unfold intervalOf
  rw [hfilter, List.filter_beq, honce]
  simp

/-- The flushed batches of some agents. -/
def State.flushed (s : State Node) (nodes : List Node) : List (Node × Agent.IngestBatch) :=
  nodes.flatMap (fun n => (s.agents n).history.flushes.map (fun f => (n, f.1)))

/-- What some agents accepted. -/
def State.accepted (s : State Node) (nodes : List Node) : List Observation :=
  nodes.flatMap (fun n => (s.agents n).history.accepted)

theorem mem_flushed {nodes : List Node} {t : Node × Agent.IngestBatch} :
    t ∈ s.flushed nodes ↔ t.1 ∈ nodes ∧ ∃ f ∈ (s.agents t.1).history.flushes, f.1 = t.2 := by
  unfold State.flushed
  constructor
  · intro ht
    obtain ⟨n, hn, ht⟩ := List.mem_flatMap.mp ht
    obtain ⟨f, hf, rfl⟩ := List.mem_map.mp ht
    exact ⟨hn, f, hf, rfl⟩
  · rintro ⟨hn, f, hf, hft⟩
    exact List.mem_flatMap.mpr ⟨t.1, hn, List.mem_map.mpr ⟨f, hf, by rw [hft]⟩⟩

/-- The batches of different flushes are different. -/
theorem State.Distinct.flushed_nodup (hids : s.Distinct) {nodes : List Node}
    (hnodes : nodes.Nodup) : (s.flushed nodes).Nodup := by
  unfold State.flushed
  rw [List.nodup_flatMap]
  refine ⟨?_, ?_⟩
  · intro n _
    refine List.Nodup.of_map (fun t => t.2.batchID) ?_
    rw [List.map_map]
    exact hids.within n
  · refine hnodes.imp ?_
    intro n m hnm t ht ht'
    obtain ⟨f, -, rfl⟩ := List.mem_map.mp ht
    obtain ⟨g, -, hg⟩ := List.mem_map.mp ht'
    exact hnm (congrArg Prod.fst hg).symm

theorem reported_eq (s : State Node) :
    s.reported = (s.merges.map (fun m => (m.node, m.sent))).flatMap
      (fun t => intervalOf (s.agents t.1) t.2) := by
  unfold State.reported
  rw [List.flatMap_map]

/-- The interval of every merged batch is added up as it is. -/
def State.Adds (s : State Node) (μ : Measure ν) : Prop :=
  ∀ m ∈ s.merges, Accumulated μ (intervalOf (s.agents m.node) m.sent)

theorem State.adds_counts (s : State Node) : s.Adds Measure.counts :=
  fun _ _ => counts_accumulatesOn _

/-- The latencies of every merged interval fit 64 bits, edge by edge. -/
def State.Unwrapped (s : State Node) : Prop :=
  ∀ m ∈ s.merges, Agent.Unwrapped (intervalOf (s.agents m.node) m.sent)

theorem State.Unwrapped.adds (h : s.Unwrapped) : s.Adds Measure.latency :=
  fun m hm => (h m hm).accumulatesOn

section runs
variable [DecidableEq Node] {setup : Setup Node}

/-- What an agent enqueued, it flushed. -/
theorem flushed_of_enqueued (h : Reachable (system setup) s) {n : Node} {b : Agent.IngestBatch}
    (hb : b ∈ (s.agents n).delivery.history.enqueued) :
    ∃ f ∈ (s.agents n).history.flushes, f.1 = b ∧ Process.Carries b f.2 := by
  have hconserved := Process.conserved_of_reachable (reachable_agent h n)
  obtain ⟨f, hf, rfl⟩ := List.mem_map.mp (hconserved.ordered.subset (List.mem_append_left _ hb))
  exact ⟨f, hf, rfl, hconserved.carries f hf⟩

/-- Distinct ULIDs make distinct ids on the wire. -/
theorem State.Distinct.protocol (h : Reachable (system setup) s) (hids : s.Distinct) :
    s.protocol.Distinct Agent.IngestBatch.batchID := by
  intro n x hx m y hy hid
  obtain ⟨f, hf, rfl, -⟩ := flushed_of_enqueued h hx
  obtain ⟨g, hg, rfl, -⟩ := flushed_of_enqueued h hy
  have hnm : n = m := hids.across n f hf m g hg hid
  subst hnm
  rw [hids.eq_of_id hf hg hid]

/-- A merge is of a batch that its agent enqueued. -/
theorem merge_enqueued (h : Reachable (system setup) s) {m : Merge Node} (hm : m ∈ s.merges) :
    m.sent ∈ (s.agents m.node).delivery.history.enqueued :=
  (Redelivery.traced_of_reachable (reachable_protocol h)).taken (m.node, m.sent)
    (List.mem_map.mpr ⟨m, hm, rfl⟩)

/-- What a merge stored says what its interval says. -/
theorem arrived_of_merge (h : Reachable (system setup) s) (hids : s.Distinct) (hadds : s.Adds μ)
    {m : Merge Node} (hm : m ∈ s.merges) (k : SortKey) :
    μ.arrived m.stored.edges k = μ.total (intervalOf (s.agents m.node) m.sent) k := by
  have hadds := hadds m hm
  obtain ⟨f, hf, hsent, hcarries⟩ := flushed_of_enqueued h (merge_enqueued h hm)
  obtain ⟨body, hbody, hparse⟩ :=
    (stored_of_reachable h).merges (m.sent, m.stored) (List.mem_map.mpr ⟨m, hm, rfl⟩)
  rw [← hsent, hids.intervalOf_eq hf] at hadds ⊢
  exact arrived_of_carries (hsent ▸ hcarries) hadds hbody hparse k

/-- **The query** answers with the totals of the merged intervals. -/
theorem answered_query (h : Reachable (system setup) s) (hids : s.Distinct) (hadds : s.Adds μ)
    (casefold : String → String) {window : ResolvedWindow}
    (hcovers : Covers window (s.merges.map Merge.stored)) (k : SortKey) :
    μ.answered (s.repo.queryEdges casefold window {}) k = μ.total s.reported k := by
  have hrepo : s.repo = (s.merges.map Merge.stored).foldl InMemoryRepository.mergeBatch
      (.new setup.clusterId) := by
    rw [(stored_of_reachable h).repo, State.merged, List.map_map]
    rfl
  rw [hrepo, answered_queryEdges _ _ hcovers]
  unfold State.reported Measure.arrived Measure.total
  -- merge by merge
  have hsum : ∀ ms : List (Merge Node), (∀ m ∈ ms, m ∈ s.merges) →
      keyedSum (((ms.map Merge.stored).flatMap Backend.IngestBatch.edges).map
        (fun e => (e.key.sortKey, μ.stored (Bucket.ofEdge e)))) k =
      keyedSum ((ms.flatMap (fun m => intervalOf (s.agents m.node) m.sent)).map
        (fun o => (o.key.sortKey, μ.observed o))) k := by
    intro ms hms
    induction ms with
    | nil => rfl
    | cons m ms ih =>
      simp only [List.map_cons, List.flatMap_cons, List.map_append, keyedSum_append]
      have hmerge := arrived_of_merge h hids hadds (hms m List.mem_cons_self) k
      unfold Measure.arrived Measure.total at hmerge
      rw [hmerge, ih (fun m' hm' => hms m' (List.mem_cons_of_mem _ hm'))]
  exact hsum s.merges (fun m hm => hm)

/-! ### Merged and accepted -/

/-- The intervals of the flushed batches are part of what was accepted, and all of it if
    nothing was observed since. -/
theorem State.Distinct.intervals (h : Reachable (system setup) s) (hids : s.Distinct)
    (nodes : List Node) :
    (s.flushed nodes).flatMap (fun t => intervalOf (s.agents t.1) t.2) =
      nodes.flatMap (fun n => (s.agents n).history.flushes.flatMap Prod.snd) ∧
    ((s.flushed nodes).flatMap (fun t => intervalOf (s.agents t.1) t.2)).Sublist
      (s.accepted nodes) := by
  have heq : (s.flushed nodes).flatMap (fun t => intervalOf (s.agents t.1) t.2) =
      nodes.flatMap (fun n => (s.agents n).history.flushes.flatMap Prod.snd) := by
    unfold State.flushed
    rw [List.flatMap_assoc]
    refine List.flatMap_congr ?_
    intro n _
    rw [List.flatMap_map]
    refine List.flatMap_congr ?_
    intro f hf
    exact hids.intervalOf_eq hf
  refine ⟨heq, ?_⟩
  rw [heq]
  refine List.Sublist.flatMap_right nodes ?_
  intro n _
  rw [(Process.conserved_of_reachable (reachable_agent h n)).accepted]
  exact List.sublist_append_left _ _

/-- No batch is merged twice. -/
theorem taken_nodup (h : Reachable (system setup) s) :
    (s.merges.map (fun m => (m.node, m.sent))).Nodup :=
  (Redelivery.traced_of_reachable (reachable_protocol h)).ids.of_map _

theorem taken_subset_flushed (h : Reachable (system setup) s) {nodes : List Node}
    (hall : ∀ m ∈ s.merges, m.node ∈ nodes) :
    s.merges.map (fun m => (m.node, m.sent)) ⊆ s.flushed nodes := by
  intro t ht
  obtain ⟨m, hm, rfl⟩ := List.mem_map.mp ht
  obtain ⟨f, hf, hft, -⟩ := flushed_of_enqueued h (merge_enqueued h hm)
  exact mem_flushed.mpr ⟨hall m hm, f, hf, hft⟩

/-- **The graph shows what was reported, once, and nothing else**: in every run without a
    repeated ULID an unfiltered edge query over all of the data answers, for each edge, with the
    counts of the observations of the merged batches, and with the sum of their latencies if no
    interval wrapped; and these are among the observations the agents accepted, none twice. -/
theorem graph_shows_reported (setup : Setup Node) (s : State Node)
    (hreach : Reachable (system setup) s) (hids : s.Distinct) (nodes : List Node)
    (hall : ∀ m ∈ s.merges, m.node ∈ nodes) (casefold : String → String)
    (window : ResolvedWindow) (hcovers : Covers window (s.merges.map Merge.stored)) :
    (∀ k, Measure.counts.answered (s.repo.queryEdges casefold window {}) k =
      Measure.counts.total s.reported k) ∧
    (s.Unwrapped → ∀ k, Measure.latency.answered (s.repo.queryEdges casefold window {}) k =
      Measure.latency.total s.reported k) ∧
    s.reported.Subperm (s.accepted nodes) := by
  refine ⟨answered_query hreach hids s.adds_counts casefold hcovers,
    fun hfits => answered_query hreach hids hfits.adds casefold hcovers, ?_⟩
  obtain ⟨l, hperm, hsub⟩ := (taken_nodup hreach).subperm (taken_subset_flushed hreach hall)
  rw [reported_eq]
  refine ((hperm.flatMap_right _).symm.subperm).trans ?_
  exact ((hsub.flatMap _).trans (hids.intervals hreach nodes).2).subperm

/-! ### Nothing missing -/

/-- The agent delivered what it accepted: nothing is in the aggregator, in the flush loop or in
    the queue, and no batch was discarded, evicted or refused. -/
structure Delivered (a : Process.State) : Prop where
  interval : a.history.interval = []
  invalid : a.history.invalid = []
  flusher : a.flusher.carried = []
  producer : a.delivery.producer = .idle
  pending : a.delivery.pending = []
  dropped : a.delivery.counters.dropped = 0
  rejected : a.delivery.counters.rejected = 0

/-- Then every batch it flushed is counted in `Sent`. -/
theorem Delivered.sent (h : Reachable (system setup) s) (hids : s.Distinct) {n : Node}
    (hdelivered : Delivered (s.agents n)) {f : Agent.IngestBatch × List Observation}
    (hf : f ∈ (s.agents n).history.flushes) : f.1 ∈ (s.agents n).delivery.history.sent := by
  have hreach := reachable_agent h n
  have hdelivery := Process.reachable_delivery hreach
  have hconserved := Process.conserved_of_reachable hreach
  have henqueued : f.1 ∈ (s.agents n).delivery.history.enqueued := by
    rcases hconserved.fate f hf with hinvalid | hcarried | henqueued
    · rw [hdelivered.invalid] at hinvalid
      cases hinvalid
    · rw [hdelivered.flusher] at hcarried
      cases hcarried
    · exact henqueued
  have hnodup : ((s.agents n).delivery.history.enqueued.map Agent.IngestBatch.batchID).Nodup := by
    have hsub : ((s.agents n).delivery.history.enqueued).Sublist
        ((s.agents n).history.flushes.map Prod.fst) :=
      (List.sublist_append_left _ _).trans hconserved.ordered
    have hflushes : (((s.agents n).history.flushes.map Prod.fst).map
        Agent.IngestBatch.batchID).Nodup := by
      rw [List.map_map]
      exact hids.within n
    exact hflushes.sublist (hsub.map _)
  -- nothing is queued, on its way there or evicted
  have hevicted : (s.agents n).delivery.history.evicted = [] := by
    have hcount := BoundedQueue.dropped_eq (Delivery.reachable_queue hdelivery)
    refine List.length_eq_zero_iff.mp ?_
    rw [show (s.agents n).delivery.history.evicted.length =
      (s.agents n).delivery.queue.evicted.length from rfl, ← hcount]
    simp [Delivery.State.queue, hdelivered.dropped, hdelivered.producer,
      Delivery.Producer.handover, BoundedQueue.Handover.uncounted]
  rcases Delivery.accounted_of_reachable hdelivery hnodup f.1 henqueued with
    hretains | hsent | hrejected
  · simp [BoundedQueue.Queue.Retains, Delivery.State.queue, hdelivered.pending,
      hdelivered.producer, Delivery.Producer.handover, BoundedQueue.Handover.carried,
      hevicted] at hretains
  · exact hsent
  · have hbooked := (Delivery.booked_of_reachable hdelivery).rejected
    rw [hdelivered.rejected] at hbooked
    rw [List.length_eq_zero_iff.mp hbooked.symm] at hrejected
    cases hrejected

/-- Then what was merged is what was accepted. -/
theorem reported_perm_accepted (hreach : Reachable (system setup) s) (hids : s.Distinct)
    {nodes : List Node} (hnodes : nodes.Nodup) (hall : ∀ m ∈ s.merges, m.node ∈ nodes)
    (hdelivered : ∀ n ∈ nodes, Delivered (s.agents n)) : s.reported.Perm (s.accepted nodes) := by
  have hcredit := Redelivery.credit_of_reachable (reachable_protocol hreach) (hids.protocol hreach)
  -- every flushed batch was merged, so merged and flushed are the same
  have hperm : (s.merges.map (fun m => (m.node, m.sent))).Perm (s.flushed nodes) := by
    rw [List.perm_ext_iff_of_nodup (taken_nodup hreach) (hids.flushed_nodup hnodes)]
    intro t
    refine ⟨fun ht => taken_subset_flushed hreach hall ht, ?_⟩
    intro ht
    obtain ⟨hn, f, hf, hft⟩ := mem_flushed.mp ht
    have hsent := (hdelivered t.1 hn).sent hreach hids hf
    rw [hft] at hsent
    exact hcredit.counted t.1 t.2 hsent
  have haccepted : nodes.flatMap (fun n => (s.agents n).history.flushes.flatMap Prod.snd) =
      s.accepted nodes := by
    refine List.flatMap_congr ?_
    intro n hn
    rw [(Process.conserved_of_reachable (reachable_agent hreach n)).accepted,
      (hdelivered n hn).interval, List.append_nil]
  rw [reported_eq, ← haccepted, ← (hids.intervals hreach nodes).1]
  exact hperm.flatMap_right _

/-- **The graph shows everything**: once every agent delivered what it accepted, an unfiltered
    edge query over all of the data answers, for each edge, with the counts of all observations
    the agents accepted, and with the sum of their latencies if no interval wrapped. -/
theorem graph_shows_everything (setup : Setup Node) (s : State Node)
    (hreach : Reachable (system setup) s) (hids : s.Distinct) (nodes : List Node)
    (hnodes : nodes.Nodup) (hall : ∀ m ∈ s.merges, m.node ∈ nodes)
    (hdelivered : ∀ n ∈ nodes, Delivered (s.agents n))
    (casefold : String → String) (window : ResolvedWindow)
    (hcovers : Covers window (s.merges.map Merge.stored)) (k : SortKey) :
    Measure.counts.answered (s.repo.queryEdges casefold window {}) k =
      Measure.counts.total (s.accepted nodes) k ∧
    (s.Unwrapped → Measure.latency.answered (s.repo.queryEdges casefold window {}) k =
      Measure.latency.total (s.accepted nodes) k) := by
  have hperm := reported_perm_accepted hreach hids hnodes hall hdelivered
  refine ⟨(answered_query hreach hids s.adds_counts casefold hcovers k).trans ?_,
    fun hfits => (answered_query hreach hids hfits.adds casefold hcovers k).trans ?_⟩
  · exact keyedSum_perm (hperm.map _) k
  · exact keyedSum_perm (hperm.map _) k

end runs

/-! ### An agent and its successor -/

section sample
open Process (sampleConfig sampleInit refusedRecord refusedEvent refusedBatch refusedAggregator
  refusedSeen)

/-- What an agent does by itself, the cluster does. -/
theorem reachable_run [DecidableEq Node] {setup : Setup Node} {s : State Node} {n : Node}
    (h : Reachable (system setup) s) {ls : List Process.Label} {a : Process.State}
    (hrun : Run ((Process.system setup.quote (setup.config n)).restrict
      (fun _ l => isPostReturn l = false)) (s.agents n) ls a) :
    Reachable (system setup) { s with agents := Function.update s.agents n a } := by
  generalize ha₀ : s.agents n = a₀ at hrun
  induction hrun with
  | nil =>
    rw [← ha₀, Function.update_eq_self]
    exact h
  | @snoc t t' ls l hrun hstep ih =>
    refine ih.step (l := .agent n l) ⟨hstep.1, t', ?_, ?_⟩
    · show (Process.system setup.quote (setup.config n)).step (Function.update s.agents n t n) l t'
      rw [Function.update_self]
      exact hstep.2
    · rw [Function.update_idem]

/-- An agent (`false`) and the one that took its place (`true`). -/
def sampleSetup : Setup Bool := ⟨id, fun _ => sampleConfig, "c"⟩

/-- The batch of a refused connection, under one of two ids. -/
def batchOf (n : Bool) : Agent.IngestBatch :=
  { refusedBatch with batchID := (if n then otherUlid else sampleUlid).string }

/-- An agent while it posts this batch. -/
def postingAgent (n : Bool) : Process.State where
  aggregator := (refusedAggregator.flush 10 sampleNow sampleUlid).1
  delivery :=
    { pending := [batchOf n]
      signal := true
      counters := { queueHigh := 1 }
      sender := .posting (batchOf n)
      history := { enqueued := [batchOf n] } }
  history :=
    { accepted := [refusedSeen]
      flushes := [(batchOf n, [refusedSeen])] }

theorem flush_batchOf (n : Bool) :
    (refusedAggregator.flush 10 sampleNow (if n then otherUlid else sampleUlid)).2 =
      some (batchOf n) := by
  cases n with
  | false => decide +kernel
  | true => decide +kernel

theorem validate_batchOf (n : Bool) : (batchOf n).validate id = .ok () := by
  cases n with
  | false => decide +kernel
  | true => decide +kernel

theorem run_postingAgent (n : Bool) : ∃ ls, Run ((Process.system id sampleConfig).restrict
    (fun _ l => isPostReturn l = false)) sampleInit ls (postingAgent n) := by
  have h₀ : Run ((Process.system id sampleConfig).restrict (fun _ l => isPostReturn l = false))
      sampleInit [] sampleInit := .nil _
  have h₁ := h₀.snoc (l := Process.Label.read refusedRecord) ⟨rfl, rfl, rfl, rfl⟩
  have h₂ : Run _ _ _ { sampleInit with main := .handling refusedEvent } :=
    h₁.snoc (l := Process.Label.decode ⟨sampleNow, 5000⟩)
      ⟨rfl, refusedRecord, rfl, by rw [Process.decode_refusedRecord]⟩
  have h₃ := h₂.snoc (l := Process.Label.handle sampleCaches) ⟨rfl, Process.handle_refusedEvent _ rfl rfl⟩
  have h₄ := h₃.snoc (l := Process.Label.tick) ⟨rfl, rfl, rfl⟩
  have h₅ := h₄.snoc (l := Process.Label.flush sampleNow (if n then otherUlid else sampleUlid))
    ⟨rfl, Process.flush_refused _ rfl false rfl (flush_batchOf n)⟩
  have h₆ := h₅.snoc (l := Process.Label.validate)
    ⟨rfl, Process.validate_refused _ false rfl (validate_batchOf n)⟩
  have h₇ := h₆.snoc (l := Process.Label.enqueue)
    ⟨rfl, batchOf n, false, _, rfl, .inl ⟨rfl, (by decide : 0 < Delivery.maxSize 4), rfl⟩, rfl⟩
  have h₈ := h₇.snoc (l := Process.Label.delivery .raiseHigh) ⟨rfl, _, rfl, ⟨1, rfl, rfl⟩, rfl⟩
  have h₉ := h₈.snoc (l := Process.Label.delivery .wake) ⟨rfl, _, rfl, ⟨rfl, rfl⟩, rfl⟩
  have h₁₀ := h₉.snoc (l := Process.Label.enqueueReturn) ⟨rfl, false, rfl, rfl, rfl⟩
  exact ⟨_, h₁₀.snoc (l := Process.Label.delivery .peek) ⟨rfl, _, rfl, ⟨rfl, rfl⟩, rfl⟩⟩

def sampleWindow : ResolvedWindow := ⟨0, 2000000000000000⟩

/-- The bodies of the two POSTs. -/
def bodyOf (n : Bool) : Json := EndToEnd.bodyOf (batchOf n)

theorem distinct_of_histories {s : State Bool}
    (h : ∀ n, (s.agents n).history = (postingAgent n).history) : s.Distinct where
  within n := by
    rw [h n]
    exact List.nodup_singleton _
  across n f hf m g hg hid := by
    rw [h n] at hf
    rw [h m] at hg
    rw [List.mem_singleton.mp hf, List.mem_singleton.mp hg] at hid
    revert hid
    cases n <;> cases m <;> decide +kernel

/-- Both agents observed a refused connection. The first POST is merged and its answer lost; later
    it is repeated, and the other agent's batch is delivered as well. -/
theorem reachable_sample : ∃ s s' : State Bool, Reachable (system sampleSetup) s ∧
    Reachable (system sampleSetup) s' ∧
    (∀ n, (s.agents n).history = (postingAgent n).history) ∧
    (∀ n, (s'.agents n).history = (postingAgent n).history) ∧
    s.merges.map (fun m => (m.node, m.sent)) = [(false, batchOf false)] ∧
    Covers sampleWindow (s.merges.map Merge.stored) ∧
    Covers sampleWindow (s'.merges.map Merge.stored) ∧
    s'.requests.length = 3 ∧ ∀ n, Delivered (s'.agents n) := by
  obtain ⟨ls, hfirst⟩ := run_postingAgent false
  obtain ⟨ls', hsecond⟩ := run_postingAgent true
  have h₀ : Reachable (system sampleSetup) { agents := fun _ => sampleInit, repo := .new "c" } :=
    .init ⟨fun _ => rfl, rfl, fun _ => rfl, rfl, rfl, rfl⟩
  have h₁ := reachable_run (n := false) h₀ hfirst
  have h₂ := reachable_run (n := true) h₁ hsecond
  have h₃ := h₂.step (l := Label.send false) ⟨batchOf false, bodyOf false, rfl, rfl, rfl, rfl⟩
  have h₄ := h₃.step (l := Label.handle 0) ⟨(false, ⟨batchOf false, bodyOf false⟩), rfl, rfl⟩
  have h₅ := h₄.step (l := Label.doError false) ⟨_, ⟨_, .inl ⟨batchOf false, rfl, rfl⟩, rfl⟩, rfl⟩
  have h₆ := h₅.step (l := Label.agent false (.delivery .count))
    ⟨rfl, _, ⟨_, rfl, ⟨batchOf false, .retryable, rfl, rfl⟩, rfl⟩, rfl⟩
  have h₇ := h₆.step (l := Label.agent false (.delivery .sleepElapsed))
    ⟨rfl, _, ⟨_, rfl, ⟨batchOf false, rfl, rfl⟩, rfl⟩, rfl⟩
  have h₈ := h₇.step (l := Label.send false) ⟨batchOf false, bodyOf false, rfl, rfl, rfl, rfl⟩
  have h₉ := h₈.step (l := Label.handle 1) ⟨(false, ⟨batchOf false, bodyOf false⟩), rfl, rfl⟩
  have h₁₀ := h₉.step (l := Label.receive false 200)
    ⟨1, _, rfl, by decide +kernel, ⟨_, .inl ⟨batchOf false, rfl, rfl⟩, rfl⟩, rfl⟩
  have h₁₁ := h₁₀.step (l := Label.agent false (.delivery .count))
    ⟨rfl, _, ⟨_, rfl, ⟨batchOf false, .duplicate, rfl, rfl⟩, rfl⟩, rfl⟩
  have h₁₂ := h₁₁.step (l := Label.agent false (.delivery .pop))
    ⟨rfl, _, ⟨_, rfl, ⟨batchOf false, rfl, rfl⟩, rfl⟩, rfl⟩
  have h₁₃ := h₁₂.step (l := Label.send true) ⟨batchOf true, bodyOf true, rfl, rfl, rfl, rfl⟩
  have h₁₄ := h₁₃.step (l := Label.handle 2) ⟨(true, ⟨batchOf true, bodyOf true⟩), rfl, rfl⟩
  have h₁₅ := h₁₄.step (l := Label.receive true 202)
    ⟨2, _, rfl, by decide +kernel, ⟨_, .inl ⟨batchOf true, rfl, rfl⟩, rfl⟩, rfl⟩
  have h₁₆ := h₁₅.step (l := Label.agent true (.delivery .count))
    ⟨rfl, _, ⟨_, rfl, ⟨batchOf true, .accepted, rfl, rfl⟩, rfl⟩, rfl⟩
  have h₁₇ := h₁₆.step (l := Label.agent true (.delivery .pop))
    ⟨rfl, _, ⟨_, rfl, ⟨batchOf true, rfl, rfl⟩, rfl⟩, rfl⟩
  refine ⟨_, _, h₅, h₁₇, ?_, ?_, by decide +kernel, ?_, ?_, rfl, ?_⟩
  · intro n
    cases n <;> rfl
  · intro n
    cases n <;> rfl
  · unfold Covers
    decide +kernel
  · unfold Covers
    decide +kernel
  · intro n
    have hpop : ∀ n, Delivery.popID (batchOf n).batchID [batchOf n] = [] := fun n => by
      simp [Delivery.popID]
    cases n with
    | false => exact ⟨rfl, rfl, rfl, rfl, hpop false, rfl, rfl⟩
    | true => exact ⟨rfl, rfl, rfl, rfl, hpop true, rfl, rfl⟩

/-- When the answer is lost, one of two connections is shown. -/
theorem graph_shows_refused : ∃ s : State Bool, Reachable (system sampleSetup) s ∧
    (s.accepted [false, true]).length = 2 ∧ s.reported.Subperm (s.accepted [false, true]) ∧
    Measure.counts.answered (s.repo.queryEdges id sampleWindow {}) refusedSeen.key.sortKey =
      ((⟨0, 1, 0⟩ : Counts) : WithZero Counts) := by
  obtain ⟨s, -, hreach, -, hhistory, -, hmerges, hcovers, -⟩ := reachable_sample
  have hreported : s.reported = [refusedSeen] := by
    rw [reported_eq, hmerges, List.flatMap_singleton, intervalOf, hhistory false]
    decide +kernel
  obtain ⟨hcounts, -, hsub⟩ := graph_shows_reported sampleSetup s hreach
    (distinct_of_histories hhistory) [false, true] (fun m _ => by cases m.node <;> simp) id
    sampleWindow hcovers
  refine ⟨s, hreach, ?_, hsub, ?_⟩
  · simp [State.accepted, hhistory, postingAgent]
  · rw [hcounts, hreported]
    decide +kernel

/-- In the end both are, once. -/
theorem graph_shows_both_failures : ∃ s : State Bool, Reachable (system sampleSetup) s ∧
    s.requests.length = 3 ∧
    Measure.counts.answered (s.repo.queryEdges id sampleWindow {}) refusedSeen.key.sortKey =
      ((⟨0, 2, 0⟩ : Counts) : WithZero Counts) := by
  obtain ⟨-, s, -, hreach, -, hhistory, -, -, hcovers, hrequests, hdelivered⟩ := reachable_sample
  have haccepted : s.accepted [false, true] = [refusedSeen, refusedSeen] := by
    simp [State.accepted, hhistory, postingAgent]
  refine ⟨s, hreach, hrequests, ?_⟩
  rw [(graph_shows_everything sampleSetup s hreach (distinct_of_histories hhistory) [false, true]
    (by simp) (fun m _ => by cases m.node <;> simp) (fun n _ => hdelivered n) id sampleWindow hcovers
    _).1, haccepted]
  decide +kernel

end sample

end Cluster

end TopologyVisualizer
