import TopologyVisualizer.Agent.Interval

/-! # Conservation

    No observation is lost or counted twice between `Add` and `Flush`.

    A run of an aggregator is any sequence of the two calls. What it has
    reported, the edges of the flushed batches together with the pending
    map, is compared with the observations it was given:

    * `run_balanced`: the counters and the reported outcomes add up;
    * `run_ordered`: a batch lists its edges in strictly increasing order;
    * `run_total`: any quantity that one entry accumulates, summed per key
      over the whole run, is a sum over the kept observations, so it depends
      neither on their order nor on where the flushes fall.

    The last applies to the counts as they are. It applies to the latency
    sums while what was measured for a key fits the 64-bit sum of an entry,
    and to the first and last times while the readings `Before` and `After`
    compare agree with the wall clock that a batch reports.
-/

namespace TopologyVisualizer.Agent

/-! ### What edges of one key add up to -/

/-- Outcomes, and how many of them have a latency. -/
@[ext] structure Counts where
  successes : Int
  failures : Int
  samples : Int
  deriving DecidableEq

namespace Counts

instance : Add Counts where
  add a b := ⟨a.successes + b.successes, a.failures + b.failures, a.samples + b.samples⟩

theorem add_def (a b : Counts) : a + b =
    ⟨a.successes + b.successes, a.failures + b.failures, a.samples + b.samples⟩ := rfl

instance : AddCommSemigroup Counts where
  add_assoc a b c := by simp only [add_def, add_assoc]
  add_comm a b := by simp only [add_def, add_comm]

instance : DecidableEq (WithZero Counts) := inferInstanceAs (DecidableEq (Option Counts))

end Counts

instance instDecidableEqLatency : DecidableEq (WithZero Int) :=
  inferInstanceAs (DecidableEq (Option Int))

/-- The wall-clock interval the observations of an edge fall in. -/
@[ext] structure Span where
  firstSeen : Int
  lastSeen : Int
  deriving DecidableEq

namespace Span

/-- The smallest interval around both. -/
instance : Add Span where
  add a b := ⟨min a.firstSeen b.firstSeen, max a.lastSeen b.lastSeen⟩

theorem add_def (a b : Span) : a + b =
    ⟨min a.firstSeen b.firstSeen, max a.lastSeen b.lastSeen⟩ := rfl

instance : AddCommSemigroup Span where
  add_assoc a b c := by simp only [add_def, min_assoc, max_assoc]
  add_comm a b := by simp only [add_def, min_comm, max_comm]

instance : DecidableEq (WithZero Span) := inferInstanceAs (DecidableEq (Option Span))

end Span

/-- What a reported edge says happened. -/
def EdgeObservation.counts (e : EdgeObservation) : Counts :=
  ⟨e.connectionCount, e.failedConnectionCount.getD 0, e.connectLatencyCount⟩

/-- When a reported edge was seen. -/
def EdgeObservation.span (e : EdgeObservation) : Span := ⟨e.firstSeen.wall, e.lastSeen.wall⟩

/-- All connections a reported edge stands for. -/
def EdgeObservation.outcomes (e : EdgeObservation) : Int :=
  e.connectionCount + e.failedConnectionCount.getD 0

def Observation.counts (o : Observation) : Counts := ⟨o.successes, o.failures, o.samples⟩

def Observation.span (o : Observation) : Span := ⟨o.timestamp.wall, o.timestamp.wall⟩

/-- The key as `Flush` sorts it. -/
def Key.sortKey (k : Key) : String ×ₗ String ×ₗ String ×ₗ Int :=
  toLex (k.sourceID, toLex (k.targetID, toLex (k.protocol, (k.destinationPort.toNat : Int))))

theorem Key.sortKey_injective : Function.Injective Key.sortKey := by
  intro a b h
  unfold Key.sortKey at h
  obtain ⟨hsource, h⟩ := Prod.mk.inj (toLex.injective h)
  obtain ⟨htarget, h⟩ := Prod.mk.inj (toLex.injective h)
  obtain ⟨hprotocol, hport⟩ := Prod.mk.inj (toLex.injective h)
  cases a
  cases b
  simp only [Key.mk.injEq]
  exact ⟨hsource, htarget, hprotocol, UInt16.toNat_inj.mp (Int.ofNat.inj hport)⟩

/-! ### Entries accumulate -/

section accumulate
variable {ν : Type} [AddCommSemigroup ν]

/-- `val` of a reported edge is the sum of `single` over the observations its entry collects. -/
def Accumulates (val : EdgeObservation → ν) (single : Observation → ν) (os : List Observation) :
    Prop :=
  ∀ (k : Key) (e : Entry), e.Collects os →
    (val (toObservation (k, e)) : WithZero ν) = (os.map (fun o => (single o : WithZero ν))).sum

/-- A sum over the observations so far, once there is one. -/
theorem sum_concat_eq {single : Observation → ν} {os : List Observation} {v : ν}
    (h : (os.map (fun o => (single o : WithZero ν))).sum = (v : WithZero ν)) (o : Observation) :
    ((os ++ [o]).map (fun o => (single o : WithZero ν))).sum = ((v + single o : ν) : WithZero ν) := by
  rw [List.map_append, List.sum_append, h]
  simp

end accumulate

/-- A sum of integers over at least one observation. -/
theorem sum_totalOf (f : Observation → Int) {os : List Observation} (hne : os ≠ []) :
    (os.map (fun o => (f o : WithZero Int))).sum = (totalOf f os : WithZero Int) := by
  induction os using List.reverseRecOn with
  | nil => exact absurd rfl hne
  | append_singleton os o ih =>
    by_cases hos : os = []
    · simp [hos, totalOf]
    · rw [sum_concat_eq (ih hos) o, totalOf_concat]

/-- The sum of the counts of at least one observation. -/
theorem sum_counts {os : List Observation} (hne : os ≠ []) :
    (os.map (fun o => (o.counts : WithZero Counts))).sum =
      ((⟨totalOf Observation.successes os, totalOf Observation.failures os,
        totalOf Observation.samples os⟩ : Counts) : WithZero Counts) := by
  induction os using List.reverseRecOn with
  | nil => exact absurd rfl hne
  | append_singleton os o ih =>
    by_cases hos : os = []
    · simp [hos, totalOf, Observation.counts]
    · rw [sum_concat_eq (ih hos) o]
      simp only [Observation.counts, Counts.add_def, totalOf_concat]

theorem Entry.Collects.ne_nil {e : Entry} {os : List Observation} (h : e.Collects os) : os ≠ [] := by
  obtain ⟨o, ho, -⟩ := h.endpoints
  exact List.ne_nil_of_mem ho

theorem counts_accumulates (os : List Observation) :
    Accumulates EdgeObservation.counts Observation.counts os := by
  intro k e hcollects
  rw [sum_counts hcollects.ne_nil, ← hcollects.count, ← hcollects.failedCount,
    ← hcollects.latencyCount]
  rfl

theorem Observation.latencyUS_nonneg (o : Observation) : 0 ≤ o.latencyUS := by
  unfold latencyUS latency?
  cases o.connectLatencyUS with
  | none => simp
  | some us =>
    by_cases hus : 0 ≤ us
    · cases o.failed <;> simp [Option.filter, hus]
    · cases o.failed <;> simp [Option.filter, hus]

/-- The 64-bit sum of an entry is the sum, as long as the sum is one. -/
theorem latency_accumulates {os : List Observation}
    (hfits : totalOf Observation.latencyUS os < 2 ^ 63) :
    Accumulates EdgeObservation.connectLatencySumUS Observation.latencyUS os := by
  intro k e hcollects
  have hnonneg := totalOf_nonneg Observation.latencyUS_nonneg os
  rw [sum_totalOf _ hcollects.ne_nil]
  show ((e.latencySumUS : Int) : WithZero Int) = _
  rw [hcollects.latencySumUS, wrapInt64, Int.bmod_eq_of_le (by omega) (by omega)]

/-- The latencies measured for any key add up to an `int64`. -/
def Unwrapped (os : List Observation) : Prop :=
  ∀ k, totalOf Observation.latencyUS (ofKey k os) < 2 ^ 63

theorem totalOf_latency_le {os os' : List Observation} (h : os.Sublist os') :
    totalOf Observation.latencyUS os ≤ totalOf Observation.latencyUS os' := by
  refine List.Sublist.sum_le_sum (h.map _) ?_
  intro us hus
  obtain ⟨o, -, rfl⟩ := List.mem_map.mp hus
  exact o.latencyUS_nonneg

/-- The readings `Before` compares agree with the wall clock, on the observations of one key. -/
def Steady (os : List Observation) : Prop :=
  ∀ o ∈ os, ∀ o' ∈ os, o.key = o'.key →
    o.timestamp.before o'.timestamp = decide (o.timestamp.wall < o'.timestamp.wall)

theorem Steady.sublist {os os' : List Observation} (h : Steady os') (hsub : ∀ o ∈ os, o ∈ os') :
    Steady os :=
  fun o ho o' ho' => h o (hsub o ho) o' (hsub o' ho')

theorem Steady.earlier_wall {os : List Observation} (h : Steady os) {o o' : Observation}
    (ho : o ∈ os) (ho' : o' ∈ os) (hkey : o.key = o'.key) :
    (o.timestamp.earlier o'.timestamp).wall = min o.timestamp.wall o'.timestamp.wall := by
  unfold GoTime.earlier
  rw [h o' ho' o ho hkey.symm]
  by_cases hlt : o'.timestamp.wall < o.timestamp.wall
  · simp [hlt, min_eq_right hlt.le]
  · simp [hlt, min_eq_left (not_lt.mp hlt)]

theorem Steady.later_wall {os : List Observation} (h : Steady os) {o o' : Observation}
    (ho : o ∈ os) (ho' : o' ∈ os) (hkey : o.key = o'.key) :
    (o.timestamp.later o'.timestamp).wall = max o.timestamp.wall o'.timestamp.wall := by
  unfold GoTime.later GoTime.after
  rw [h o ho o' ho' hkey]
  by_cases hlt : o.timestamp.wall < o'.timestamp.wall
  · simp [hlt, max_eq_right hlt.le]
  · simp [hlt, max_eq_left (not_lt.mp hlt)]

/-- On a steady clock the running extremes are the extremes of the wall clock. -/
theorem sum_span {os : List Observation} (hsteady : Steady os)
    (hkey : ∀ o ∈ os, ∀ o' ∈ os, o.key = o'.key) {first last : GoTime}
    (hfirst : GoTime.earliest? (os.map Observation.timestamp) = some first)
    (hlast : GoTime.latest? (os.map Observation.timestamp) = some last) :
    (os.map (fun o => (o.span : WithZero Span))).sum =
      ((⟨first.wall, last.wall⟩ : Span) : WithZero Span) := by
  induction os using List.reverseRecOn generalizing first last with
  | nil => cases hfirst
  | append_singleton os o ih =>
    have hsub : ∀ o' ∈ os, o' ∈ os ++ [o] := fun o' ho' => List.mem_append_left _ ho'
    have ho : o ∈ os ++ [o] := by simp
    rw [List.map_append, List.map_singleton, GoTime.earliest?_concat] at hfirst
    rw [List.map_append, List.map_singleton, GoTime.latest?_concat] at hlast
    cases hfirst
    cases hlast
    by_cases hos : os = []
    · subst hos
      simp [GoTime.earliest?, GoTime.latest?, Observation.span]
    · -- the extremes so far are times of earlier observations, so the new one compares with
      -- them as the wall clock does
      cases hf : GoTime.earliest? (os.map Observation.timestamp) with
      | none => exact absurd (GoTime.earliest?_eq_none hf) (by simpa using hos)
      | some first =>
        cases hl : GoTime.latest? (os.map Observation.timestamp) with
        | none => exact absurd (GoTime.latest?_eq_none hl) (by simpa using hos)
        | some last =>
          rw [sum_concat_eq (ih (hsteady.sublist hsub)
            (fun a ha b hb => hkey a (hsub a ha) b (hsub b hb)) hf hl) o]
          obtain ⟨a, ha, rfl⟩ := List.mem_map.mp (GoTime.mem_of_earliest? hf)
          obtain ⟨b, hb, rfl⟩ := List.mem_map.mp (GoTime.mem_of_latest? hl)
          congr 1
          ext
          · exact (hsteady.earlier_wall (hsub a ha) ho (hkey a (hsub a ha) o ho)).symm
          · exact (hsteady.later_wall (hsub b hb) ho (hkey b (hsub b hb) o ho)).symm

theorem span_accumulates {os : List Observation} (hsteady : Steady os)
    (hkey : ∀ o ∈ os, ∀ o' ∈ os, o.key = o'.key) :
    Accumulates EdgeObservation.span Observation.span os := by
  intro k e hcollects
  rw [sum_span hsteady hkey hcollects.firstSeen hcollects.lastSeen]
  rfl

/-! ### The pending map -/

/-- The entries of a map that files `os` are reported under their own keys. -/
theorem sortKey_toObservation {os : List Observation} {entry : Key × Entry}
    (h : entry ∈ (os.foldl observeInto .empty).entries) :
    (toObservation entry).sortKey = entry.1.sortKey := by
  obtain ⟨k, e⟩ := entry
  have hcollects := foldl_observeInto_collects os k
  rw [Dict.get?_eq_some_iff.mpr h] at hcollects
  obtain ⟨o, ho, hsource, htarget⟩ := hcollects.endpoints
  have hkey := (mem_ofKey.mp ho).2
  subst hkey
  simp [EdgeObservation.sortKey, Key.sortKey, toObservation, nodeRef, hsource, htarget,
    Observation.key]

/-- What `Flush` would report for a map is strictly ordered by key. -/
theorem sortKeys_strict (os : List Observation) :
    ((sortOn EdgeObservation.sortKey
      ((os.foldl observeInto .empty).entries.map toObservation)).map
        EdgeObservation.sortKey).Pairwise (· < ·) := by
  apply sortOn_strict
  have hkeys : ((os.foldl observeInto .empty).entries.map toObservation).map
      EdgeObservation.sortKey = (os.foldl observeInto .empty).keys.map Key.sortKey := by
    rw [Dict.keys, List.map_map, List.map_map]
    exact List.map_congr_left fun entry h => sortKey_toObservation h
  rw [hkeys]
  exact (os.foldl observeInto .empty).nodup.map Key.sortKey_injective

section pending
variable {ν : Type} [AddCommSemigroup ν]

theorem keyedSum_ofKey (single : Observation → ν) (os : List Observation) (k : Key) :
    keyedSum (os.map (fun o => (o.key, single o))) k =
      ((ofKey k os).map (fun o => (single o : WithZero ν))).sum := by
  simp [keyedSum, ofKey, List.filter_map, Function.comp_def]

/-- `val` accumulates `single` over the observations of one key, all or some of them. -/
def AccumulatesOn (val : EdgeObservation → ν) (single : Observation → ν)
    (os : List Observation) : Prop :=
  ∀ (k : Key) (seg : List Observation), seg.Sublist (ofKey k os) → Accumulates val single seg

theorem AccumulatesOn.mono {val : EdgeObservation → ν} {single : Observation → ν}
    {os os' : List Observation} (h : AccumulatesOn val single os') (hsub : os.Sublist os') :
    AccumulatesOn val single os :=
  fun k seg hseg => h k seg (hseg.trans (hsub.filter _))

theorem counts_accumulatesOn (os : List Observation) :
    AccumulatesOn EdgeObservation.counts Observation.counts os :=
  fun _ seg _ => counts_accumulates seg

theorem Unwrapped.accumulatesOn {os : List Observation} (h : Unwrapped os) :
    AccumulatesOn EdgeObservation.connectLatencySumUS Observation.latencyUS os :=
  fun k _ hseg => latency_accumulates ((totalOf_latency_le hseg).trans_lt (h k))

theorem Steady.accumulatesOn {os : List Observation} (h : Steady os) :
    AccumulatesOn EdgeObservation.span Observation.span os := by
  intro k seg hseg
  have hmem : ∀ o ∈ seg, o ∈ os ∧ o.key = k := fun o ho => mem_ofKey.mp (hseg.subset ho)
  apply span_accumulates (h.sublist fun o ho => (hmem o ho).1)
  intro o ho o' ho'
  exact (hmem o ho).2.trans (hmem o' ho').2.symm

variable {val : EdgeObservation → ν} {single : Observation → ν} {os : List Observation}

/-- Each entry of the map sums the observations of its key. -/
theorem keyedSum_entries_observed (h : AccumulatesOn val single os) (k : Key) :
    keyedSum ((os.foldl observeInto .empty).entries.map (fun e => (e.1, val (toObservation e)))) k =
      keyedSum (os.map (fun o => (o.key, single o))) k := by
  have hnd : (((os.foldl observeInto .empty).entries.map
      (fun e => (e.1, val (toObservation e)))).map Prod.fst).Nodup := by
    rw [List.map_map]
    exact (os.foldl observeInto .empty).nodup
  have hcollects := foldl_observeInto_collects os k
  rw [keyedSum_ofKey]
  cases hget : (os.foldl observeInto .empty).get? k with
  | none =>
    rw [hget] at hcollects
    rw [hcollects, keyedSum_eq_zero_iff.mpr]
    · rfl
    · rw [List.map_map]
      exact Dict.get?_eq_none_iff.mp hget
  | some e =>
    rw [hget] at hcollects
    rw [← h k (ofKey k os) (List.Sublist.refl _) k e hcollects, keyedSum_eq_lookup hnd]
    have hmem : (k, val (toObservation (k, e))) ∈
        (os.foldl observeInto .empty).entries.map (fun e => (e.1, val (toObservation e))) :=
      List.mem_map.mpr ⟨(k, e), Dict.get?_eq_some_iff.mp hget, rfl⟩
    rw [(Dict.lookup_eq_some_iff hnd k _).mpr hmem]
    rfl

/-- What the map reports per key is the sum over the observations it files. -/
theorem keyedSum_pending (h : AccumulatesOn val single os)
    (k : String ×ₗ String ×ₗ String ×ₗ Int) :
    keyedSum (((os.foldl observeInto .empty).entries.map toObservation).map
        (fun e => (e.sortKey, val e))) k =
      keyedSum (os.map (fun o => (o.key.sortKey, single o))) k := by
  have hcoarse := keyedSum_regroup (fun key : Key => some key.sortKey)
    (keyedSum_entries_observed h) k
  have hleft : ((os.foldl observeInto .empty).entries.map toObservation).map
      (fun e => (e.sortKey, val e)) =
      regroup (fun key : Key => some key.sortKey)
        ((os.foldl observeInto .empty).entries.map (fun e => (e.1, val (toObservation e)))) := by
    rw [regroup, List.filterMap_map, List.map_map]
    symm
    apply List.filterMap_eq_map_iff_forall_eq_some.mpr
    intro entry hentry
    simp [sortKey_toObservation hentry]
  have hright : os.map (fun o => (o.key.sortKey, single o)) =
      regroup (fun key : Key => some key.sortKey) (os.map (fun o => (o.key, single o))) := by
    rw [regroup, List.filterMap_map]
    symm
    apply List.filterMap_eq_map_iff_forall_eq_some.mpr
    intro o ho
    rfl
  rw [hleft, hright]
  exact hcoarse

end pending

/-- Filing an observation adds one outcome. -/
theorem outcomes_observeInto (edges : Dict Key Entry) (o : Observation) :
    ((observeInto edges o).entries.map (fun e => (toObservation e).outcomes)).sum =
      (edges.entries.map (fun e => (toObservation e).outcomes)).sum + 1 := by
  have hobserve : ∀ e : Entry, (toObservation (o.key, e.observe o)).outcomes =
      (toObservation (o.key, e)).outcomes + 1 := by
    intro e
    simp only [EdgeObservation.outcomes, toObservation, Entry.observe, Option.getD_some]
    split <;> omega
  unfold observeInto Dict.upsert
  cases hget : edges.get? o.key with
  | none =>
    rw [Dict.set_entries_of_get?_none _ hget, List.map_append, List.sum_append]
    simp only [List.map_cons, List.map_nil, List.sum_cons, List.sum_nil, Option.getD_none,
      hobserve (Entry.new o)]
    rfl
  | some e =>
    obtain ⟨rest, hbefore, hafter, -⟩ :=
      Dict.set_perm_of_get? (((some e).getD (Entry.new o)).observe o) hget
    rw [(hafter.map _).sum_eq, (hbefore.map _).sum_eq]
    simp only [List.map_cons, List.sum_cons, Option.getD_some, hobserve e]
    omega

/-! ### Runs of an aggregator -/

/-- A call on an aggregator. The clock and the entropy `Flush` reads are its arguments. -/
inductive Call where
  | add (obs : Observation)
  | flush (intervalSeconds : Int) (now : WallReading) (ulid : Ulid)

/-- An aggregator and what it has handed over. -/
structure History where
  aggregator : Aggregator
  batches : List IngestBatch

namespace History

def apply (h : History) : Call → History
  | .add obs => { h with aggregator := h.aggregator.add obs }
  | .flush intervalSeconds now ulid =>
    { aggregator := (h.aggregator.flush intervalSeconds now ulid).1
      batches := h.batches ++ (h.aggregator.flush intervalSeconds now ulid).2.toList }

/-- A new aggregator after a sequence of calls. -/
def run (clusterID agentID : String) (infraPorts : List UInt16) (calls : List Call) : History :=
  calls.foldl apply ⟨.new clusterID agentID infraPorts, []⟩

/-- Everything reported so far and what the next flush would report. -/
def edges (h : History) : List EdgeObservation :=
  h.batches.flatMap IngestBatch.edges ++ h.aggregator.edges.entries.map toObservation

/-- Every observation was counted once, as filtered or as an outcome of an edge. -/
def Balanced (h : History) : Prop :=
  (h.aggregator.counters.observed : Int) =
    h.aggregator.counters.filteredInfraPort + h.aggregator.counters.unresolvedEndpoints +
    h.aggregator.counters.filteredNotGraphable + h.aggregator.counters.filteredIncompleteID +
    (h.edges.map EdgeObservation.outcomes).sum

/-- The edges of every batch come in strictly increasing key order. -/
def Ordered (h : History) : Prop :=
  ∀ b ∈ h.batches, (b.edges.map EdgeObservation.sortKey).Pairwise (· < ·)

/-- What the run reports for a key, by `val`; zero when it was never reported. -/
def total {ν : Type} [AddCommSemigroup ν] (val : EdgeObservation → ν) (h : History)
    (k : String ×ₗ String ×ₗ String ×ₗ Int) : WithZero ν :=
  keyedSum (h.edges.map (fun e => (e.sortKey, val e))) k

end History

/-- The observations among the calls. -/
def observations (calls : List Call) : List Observation :=
  calls.filterMap (fun call =>
    match call with
    | .add obs => some obs
    | .flush _ _ _ => none)

/-- The observations `Add` keeps. -/
def kept (infraPorts : List UInt16) (os : List Observation) : List Observation :=
  os.filter (fun o => verdict infraPorts o = .kept)

/-- The observations kept since the last flush. -/
def pendingOf (infraPorts : List UInt16) (calls : List Call) : List Observation :=
  calls.foldl (fun os call =>
    match call with
    | .add obs => os ++ kept infraPorts [obs]
    | .flush _ _ _ => []) []

@[simp] theorem observations_add (calls : List Call) (obs : Observation) :
    observations (calls ++ [.add obs]) = observations calls ++ [obs] := by
  simp [observations]

@[simp] theorem observations_flush (calls : List Call) (intervalSeconds : Int) (now : WallReading)
    (ulid : Ulid) :
    observations (calls ++ [.flush intervalSeconds now ulid]) = observations calls := by
  simp [observations]

theorem kept_append (infraPorts : List UInt16) (os os' : List Observation) :
    kept infraPorts (os ++ os') = kept infraPorts os ++ kept infraPorts os' :=
  List.filter_append ..

@[simp] theorem pendingOf_add (infraPorts : List UInt16) (calls : List Call) (obs : Observation) :
    pendingOf infraPorts (calls ++ [.add obs]) =
      pendingOf infraPorts calls ++ kept infraPorts [obs] := by
  simp [pendingOf]

@[simp] theorem pendingOf_flush (infraPorts : List UInt16) (calls : List Call)
    (intervalSeconds : Int) (now : WallReading) (ulid : Ulid) :
    pendingOf infraPorts (calls ++ [.flush intervalSeconds now ulid]) = [] := by
  simp [pendingOf]

theorem pendingOf_sublist (infraPorts : List UInt16) (calls : List Call) :
    (pendingOf infraPorts calls).Sublist (kept infraPorts (observations calls)) := by
  induction calls using List.reverseRecOn with
  | nil => exact .slnil
  | append_singleton calls call ih =>
    cases call with
    | add obs =>
      rw [pendingOf_add, observations_add, kept_append]
      exact ih.append (List.Sublist.refl _)
    | flush i now ulid =>
      rw [pendingOf_flush]
      exact List.nil_sublist _

namespace History

variable (clusterID agentID : String) (infraPorts : List UInt16)

@[simp] theorem run_concat (calls : List Call) (call : Call) :
    run clusterID agentID infraPorts (calls ++ [call]) =
      (run clusterID agentID infraPorts calls).apply call := by
  simp [run]

/-- Filing one observation, or not. -/
theorem add_edges_foldl (a : Aggregator) (obs : Observation) :
    (a.add obs).edges = (kept a.infraPorts [obs]).foldl observeInto a.edges := by
  rw [Aggregator.add_edges]
  by_cases h : verdict a.infraPorts obs = .kept
  · simp [kept, h]
  · simp [kept, h]

/-- A flush moves the pending edges into a batch, or there were none. -/
theorem edges_flush (h : History) (intervalSeconds : Int) (now : WallReading) (ulid : Ulid) :
    (h.apply (.flush intervalSeconds now ulid)).edges.Perm h.edges := by
  have hempty : (h.aggregator.flush intervalSeconds now ulid).1.edges.entries = [] := by
    rw [(h.aggregator.flush_fst intervalSeconds now ulid).1]
    rfl
  unfold edges apply
  simp only [hempty, List.map_nil, List.append_nil, List.flatMap_append]
  apply List.Perm.append_left
  cases hflush : (h.aggregator.flush intervalSeconds now ulid).2 with
  | some batch =>
    obtain ⟨-, -, -, -, -, -, hedges⟩ := Aggregator.flush_snd hflush
    simp only [Option.toList_some, List.flatMap_cons, List.flatMap_nil, List.append_nil, hedges]
    exact sortOn_perm _ _
  | none =>
    have hsize : h.aggregator.edges.entries = [] := by
      unfold Aggregator.flush at hflush
      simp only at hflush
      split at hflush
      · next hzero => exact List.length_eq_zero_iff.mp hzero
      · cases hflush
    simp [hsize]

/-! ### The counters balance -/

theorem balanced_add {h : History} (hb : h.Balanced) (obs : Observation) :
    (h.apply (.add obs)).Balanced := by
  have hfile := outcomes_observeInto h.aggregator.edges obs
  unfold Balanced edges at hb ⊢
  simp only [List.map_append, List.sum_append, List.map_map] at hb ⊢
  unfold apply Aggregator.add
  simp only
  -- one counter grows for each verdict, the outcomes for an observation that is kept
  cases verdict h.aggregator.infraPorts obs with
  | kept => simp only [Function.comp_def] at hb ⊢; omega
  | infraPort => simp only; omega
  | unresolved => simp only; omega
  | notGraphable => simp only; omega
  | incompleteID => simp only; omega

theorem balanced_flush {h : History} (hb : h.Balanced) (intervalSeconds : Int) (now : WallReading)
    (ulid : Ulid) : (h.apply (.flush intervalSeconds now ulid)).Balanced := by
  have hcounters : (h.aggregator.flush intervalSeconds now ulid).1.counters =
      { h.aggregator.counters with
        batchesFlushed := h.aggregator.counters.batchesFlushed + 1
        aggregatedEdgesFlushed :=
          h.aggregator.counters.aggregatedEdgesFlushed + h.aggregator.edges.size } := by
    unfold Aggregator.flush
    simp only
    split <;> rfl
  unfold Balanced at hb ⊢
  rw [((h.edges_flush intervalSeconds now ulid).map _).sum_eq]
  simp only [apply, hcounters]
  exact hb

/-- **Balance**: whatever the calls were, every observation is accounted for. -/
theorem run_balanced (calls : List Call) : (run clusterID agentID infraPorts calls).Balanced := by
  induction calls using List.reverseRecOn with
  | nil => rfl
  | append_singleton calls call ih =>
    rw [run_concat]
    cases call with
    | add obs => exact balanced_add ih obs
    | flush i now ulid => exact balanced_flush ih i now ulid

/-! ### The map files what is pending -/

theorem run_pending (calls : List Call) :
    (run clusterID agentID infraPorts calls).aggregator.infraPorts = infraPorts ∧
    (run clusterID agentID infraPorts calls).aggregator.edges =
      (pendingOf infraPorts calls).foldl observeInto .empty := by
  induction calls using List.reverseRecOn with
  | nil => exact ⟨rfl, rfl⟩
  | append_singleton calls call ih =>
    rw [run_concat]
    cases call with
    | add obs =>
      constructor
      · exact ((Aggregator.add_config _ obs).2.2).trans ih.1
      · show ((run clusterID agentID infraPorts calls).aggregator.add obs).edges = _
        rw [add_edges_foldl, ih.1, ih.2, pendingOf_add, List.foldl_append]
    | flush i now ulid =>
      obtain ⟨hempty, -, -, hports⟩ :=
        Aggregator.flush_fst (run clusterID agentID infraPorts calls).aggregator i now ulid
      rw [pendingOf_flush]
      exact ⟨hports.trans ih.1, hempty⟩

/-- **Order**: every batch of every run is strictly ordered by key. -/
theorem run_ordered (calls : List Call) : (run clusterID agentID infraPorts calls).Ordered := by
  induction calls using List.reverseRecOn with
  | nil => intro b hb; cases hb
  | append_singleton calls call ih =>
    rw [run_concat]
    cases call with
    | add obs => exact ih
    | flush i now ulid =>
      intro b hb
      simp only [apply, List.mem_append, Option.mem_toList] at hb
      rcases hb with hb | hb
      · exact ih b hb
      · obtain ⟨-, -, -, -, -, -, hedges⟩ := Aggregator.flush_snd hb
        rw [hedges, (run_pending clusterID agentID infraPorts calls).2]
        exact sortKeys_strict _

/-! ### The totals are those of the observations -/

variable {infraPorts}

/-- **Totals**: what a run reports per key, flushed or pending, is the sum over the kept
    observations of that key. -/
theorem run_total {ν : Type} [AddCommSemigroup ν] {val : EdgeObservation → ν}
    {single : Observation → ν} (calls : List Call)
    (hacc : AccumulatesOn val single (kept infraPorts (observations calls)))
    (k : String ×ₗ String ×ₗ String ×ₗ Int) :
    (run clusterID agentID infraPorts calls).total val k =
      keyedSum ((kept infraPorts (observations calls)).map
        (fun o => (o.key.sortKey, single o))) k := by
  unfold total
  induction calls using List.reverseRecOn with
  | nil => rfl
  | append_singleton calls call ih =>
    cases call with
    | flush i now ulid =>
      rw [observations_flush] at hacc ⊢
      rw [run_concat, keyedSum_perm ((edges_flush _ i now ulid).map _)]
      exact ih hacc
    | add obs =>
      have hpending : AccumulatesOn val single (pendingOf infraPorts (calls ++ [.add obs])) :=
        hacc.mono (pendingOf_sublist infraPorts _)
      have hbefore : AccumulatesOn val single (kept infraPorts (observations calls)) := by
        apply hacc.mono
        rw [observations_add, kept_append]
        exact List.sublist_append_left _ _
      have hold := ih hbefore
      have holdPending : AccumulatesOn val single (pendingOf infraPorts calls) :=
        hbefore.mono (pendingOf_sublist infraPorts calls)
      -- both sides split into what the batches hold and what is pending
      simp only [edges, List.map_append, keyedSum_append,
        (run_pending clusterID agentID infraPorts calls).2,
        keyedSum_pending holdPending] at hold
      simp only [edges, List.map_append, keyedSum_append,
        (run_pending clusterID agentID infraPorts (calls ++ [.add obs])).2,
        keyedSum_pending hpending]
      simp only [pendingOf_add, observations_add, kept_append, List.map_append, keyedSum_append]
      rw [← hold, ← add_assoc, run_concat]
      rfl

end History

/-- What accumulates depends only on which observations were made. -/
theorem total_of_perm (clusterID agentID : String) {infraPorts : List UInt16} {ν : Type}
    [AddCommSemigroup ν] {val : EdgeObservation → ν} {single : Observation → ν}
    {calls calls' : List Call} (hperm : (observations calls).Perm (observations calls'))
    (hacc : AccumulatesOn val single (kept infraPorts (observations calls)))
    (hacc' : AccumulatesOn val single (kept infraPorts (observations calls')))
    (k : String ×ₗ String ×ₗ String ×ₗ Int) :
    (History.run clusterID agentID infraPorts calls).total val k =
      (History.run clusterID agentID infraPorts calls').total val k := by
  rw [History.run_total clusterID agentID calls hacc, History.run_total clusterID agentID calls' hacc']
  exact keyedSum_perm ((hperm.filter _).map _) k

theorem Steady.perm {os os' : List Observation} (h : Steady os) (hperm : os.Perm os') :
    Steady os' :=
  h.sublist fun _ ho => hperm.mem_iff.mpr ho

theorem Unwrapped.perm {os os' : List Observation} (h : Unwrapped os) (hperm : os.Perm os') :
    Unwrapped os' := by
  intro k
  have hsame : totalOf Observation.latencyUS (ofKey k os) =
      totalOf Observation.latencyUS (ofKey k os') := ((hperm.filter _).map _).sum_eq
  rw [← hsame]
  exact h k

/-- **Conservation**: the counters and outcomes of every run balance, its batches are strictly
    ordered, and its counts per key depend only on which observations were made: not on their
    order, and not on where the flushes fall. So do the latency sums while they fit 64 bits, and
    the first and last times on a steady clock. -/
theorem aggregation_conserved (clusterID agentID : String) (infraPorts : List UInt16)
    (calls : List Call) :
    (History.run clusterID agentID infraPorts calls).Balanced ∧
    (History.run clusterID agentID infraPorts calls).Ordered ∧
    ∀ calls', (observations calls).Perm (observations calls') →
      ∀ k : String ×ₗ String ×ₗ String ×ₗ Int,
        (History.run clusterID agentID infraPorts calls).total EdgeObservation.counts k =
          (History.run clusterID agentID infraPorts calls').total EdgeObservation.counts k ∧
        (Unwrapped (kept infraPorts (observations calls)) →
          (History.run clusterID agentID infraPorts calls).total
              EdgeObservation.connectLatencySumUS k =
            (History.run clusterID agentID infraPorts calls').total
              EdgeObservation.connectLatencySumUS k) ∧
        (Steady (kept infraPorts (observations calls)) →
          (History.run clusterID agentID infraPorts calls).total EdgeObservation.span k =
            (History.run clusterID agentID infraPorts calls').total EdgeObservation.span k) := by
  refine ⟨History.run_balanced clusterID agentID infraPorts calls,
    History.run_ordered clusterID agentID infraPorts calls, ?_⟩
  intro calls' hperm k
  have hkept : (kept infraPorts (observations calls)).Perm
      (kept infraPorts (observations calls')) := hperm.filter _
  refine ⟨?_, ?_, ?_⟩
  · exact total_of_perm clusterID agentID hperm (counts_accumulatesOn _) (counts_accumulatesOn _) k
  · intro hfits
    exact total_of_perm clusterID agentID hperm hfits.accumulatesOn
      (hfits.perm hkept).accumulatesOn k
  · intro hsteady
    exact total_of_perm clusterID agentID hperm hsteady.accumulatesOn
      (hsteady.perm hkept).accumulatesOn k

/-! ### Two clocks, and 64 bits -/

/-- A connection from `a` to `b` that took some time, seen at a wall instant with a monotonic
    reading. -/
def sampleSeen (wall mono us : Int) : Observation where
  source := { id := "a", kind := "Pod", name := "a", «class» := .workload }
  target := { id := "b", kind := "Pod", name := "b", «class» := .workload }
  protocol := "TCP"
  destinationPort := 80
  timestamp := ⟨wall, some mono⟩
  failed := false
  connectLatencyUS := some us

def sampleSortKey : String ×ₗ String ×ₗ String ×ₗ Int := (sampleSeen 0 0 0).key.sortKey

/-- Two observations in the order of both clocks, in one interval or two. -/
theorem aggregation_conserved_in_order :
    let once := History.run "c" "a" [] [.add (sampleSeen 8 4 9), .add (sampleSeen 5 1 7)]
    let twice := History.run "c" "a" [] [.add (sampleSeen 5 1 7), .flush 10 sampleNow sampleUlid,
      .add (sampleSeen 8 4 9)]
    twice.total EdgeObservation.connectLatencySumUS sampleSortKey =
        once.total EdgeObservation.connectLatencySumUS sampleSortKey ∧
      twice.total EdgeObservation.span sampleSortKey =
        once.total EdgeObservation.span sampleSortKey := by
  have hconserved := (aggregation_conserved "c" "a" [] [.add (sampleSeen 5 1 7),
    .flush 10 sampleNow sampleUlid, .add (sampleSeen 8 4 9)]).2.2
      [.add (sampleSeen 8 4 9), .add (sampleSeen 5 1 7)] (List.Perm.swap _ _ _) sampleSortKey
  refine ⟨hconserved.2.1 ?_, hconserved.2.2 ?_⟩
  · intro k
    refine (totalOf_latency_le (List.filter_sublist ..)).trans_lt ?_
    decide
  · show Steady [sampleSeen 5 1 7, sampleSeen 8 4 9]
    unfold Steady
    decide

/-- The wall clock is set back between two observations. In one interval the first of them
    stays the first, in two intervals the second is earlier. And two connections of 2⁶² µs
    wrap the sum of one interval, but not the sums of two. -/
theorem span_depends_on_flushes :
    let once (o o' : Observation) : List Call := [.add o, .add o']
    let twice (o o' : Observation) : List Call := [.add o, .flush 10 sampleNow sampleUlid, .add o']
    (∀ o o', (observations (once o o')).Perm (observations (twice o o'))) ∧
      (History.run "c" "a" [] (once (sampleSeen 10 5 7) (sampleSeen 5 10 7))).total
          EdgeObservation.span sampleSortKey = ((⟨10, 5⟩ : Span) : WithZero Span) ∧
      (History.run "c" "a" [] (twice (sampleSeen 10 5 7) (sampleSeen 5 10 7))).total
          EdgeObservation.span sampleSortKey = ((⟨5, 10⟩ : Span) : WithZero Span) ∧
      (History.run "c" "a" [] (once (sampleSeen 5 1 (2 ^ 62)) (sampleSeen 8 4 (2 ^ 62)))).total
          EdgeObservation.connectLatencySumUS sampleSortKey = ((-2 ^ 63 : Int) : WithZero Int) ∧
      (History.run "c" "a" [] (twice (sampleSeen 5 1 (2 ^ 62)) (sampleSeen 8 4 (2 ^ 62)))).total
          EdgeObservation.connectLatencySumUS sampleSortKey = ((2 ^ 63 : Int) : WithZero Int) := by
  exact ⟨fun _ _ => List.Perm.refl _, by decide +kernel, by decide +kernel, by decide +kernel,
    by decide +kernel⟩

end TopologyVisualizer.Agent
