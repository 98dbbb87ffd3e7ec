import Mathlib.Algebra.Order.BigOperators.Group.List
import TopologyVisualizer.Agent.Aggregate

/-! # Intervals

    What `Flush` returns, as a function of the observations kept since the
    previous one. Each entry of the map collects the observations of its
    key (`Entry.Collects`), a run of events and flushes always leaves the
    map collecting exactly the observations since the last flush
    (`Pipeline.run_spec`), and so `Validate` accepts a flushed batch under
    a condition on those observations alone.
-/

namespace TopologyVisualizer.Agent

/-! ### What an observation adds -/

namespace Observation

def successes (obs : Observation) : Int := if obs.failed then 0 else 1

def failures (obs : Observation) : Int := if obs.failed then 1 else 0

def samples (obs : Observation) : Int := if obs.latency?.isSome then 1 else 0

/-- The accepted latency, nothing when there is none. -/
def latencyUS (obs : Observation) : Int := obs.latency?.getD 0

theorem samples_le_successes (obs : Observation) : obs.samples ≤ obs.successes := by
  unfold samples successes latency?
  cases obs.failed
  · simp only [Bool.false_eq_true, if_false]; split <;> omega
  · simp

theorem latencyUS_of_no_sample {obs : Observation} (h : obs.samples = 0) : obs.latencyUS = 0 := by
  unfold samples at h
  unfold latencyUS
  cases hl : obs.latency? with
  | none => rfl
  | some us => rw [hl] at h; simp at h

end Observation

/-- The total of a quantity over observations. -/
def totalOf (f : Observation → Int) (os : List Observation) : Int := (os.map f).sum

@[simp] theorem totalOf_nil (f : Observation → Int) : totalOf f [] = 0 := rfl

@[simp] theorem totalOf_concat (f : Observation → Int) (os : List Observation) (o : Observation) :
    totalOf f (os ++ [o]) = totalOf f os + f o := by
  simp [totalOf]

theorem totalOf_nonneg {f : Observation → Int} (hf : ∀ o, 0 ≤ f o) (os : List Observation) :
    0 ≤ totalOf f os :=
  List.sum_nonneg (by simpa [totalOf] using fun o _ => hf o)

theorem totalOf_le {f g : Observation → Int} (h : ∀ o, f o ≤ g o) (os : List Observation) :
    totalOf f os ≤ totalOf g os :=
  List.sum_le_sum (fun o _ => h o)

/-- Every observation is a success or a failure. -/
theorem total_outcomes (os : List Observation) :
    totalOf Observation.successes os + totalOf Observation.failures os = os.length := by
  induction os using List.reverseRecOn with
  | nil => rfl
  | append_singleton os o ih =>
    have ho : o.successes + o.failures = 1 := by
      unfold Observation.successes Observation.failures
      cases o.failed <;> rfl
    simp only [totalOf_concat, List.length_append, List.length_singleton]
    omega

/-- Without samples there is no latency to sum. -/
theorem total_latency_of_no_samples {os : List Observation}
    (h : totalOf Observation.samples os = 0) : totalOf Observation.latencyUS os = 0 := by
  induction os using List.reverseRecOn with
  | nil => rfl
  | append_singleton os o ih =>
    have hos := totalOf_nonneg (f := Observation.samples)
      (by intro o; unfold Observation.samples; split <;> omega) os
    have ho : 0 ≤ o.samples := by unfold Observation.samples; split <;> omega
    rw [totalOf_concat] at h ⊢
    rw [ih (by omega), Observation.latencyUS_of_no_sample (by omega)]
    rfl

/-! ### Entries -/

/-- The entry `e` holds the observations `os` of one key, in the order they came. -/
structure Entry.Collects (e : Entry) (os : List Observation) : Prop where
  endpoints : ∃ o ∈ os, e.source = o.source ∧ e.target = o.target
  count : e.count = totalOf Observation.successes os
  failedCount : e.failedCount = totalOf Observation.failures os
  latencyCount : e.latencyCount = totalOf Observation.samples os
  latencySumUS : e.latencySumUS = wrapInt64 (totalOf Observation.latencyUS os)
  firstSeen : GoTime.earliest? (os.map Observation.timestamp) = some e.firstSeen
  lastSeen : GoTime.latest? (os.map Observation.timestamp) = some e.lastSeen

theorem wrapInt64_add_left (x y : Int) : wrapInt64 (wrapInt64 x + y) = wrapInt64 (x + y) :=
  Int.bmod_add_bmod

theorem observe_latencySumUS (e : Entry) (o : Observation) (total : Int)
    (h : e.latencySumUS = wrapInt64 total) :
    (e.observe o).latencySumUS = wrapInt64 (total + o.latencyUS) := by
  unfold Entry.observe Observation.latencyUS
  cases o.latency? with
  | none => simpa using h
  | some us => simp only [h, wrapInt64_add_left, Option.getD_some]

theorem observe_latencyCount (e : Entry) (o : Observation) :
    (e.observe o).latencyCount = e.latencyCount + o.samples := by
  unfold Entry.observe Observation.samples
  cases o.latency? <;> simp

theorem Entry.Collects.single (o : Observation) : ((Entry.new o).observe o).Collects [o] where
  endpoints := ⟨o, by simp, rfl, rfl⟩
  count := by simp [Entry.observe, Entry.new, totalOf, Observation.successes]
  failedCount := by simp [Entry.observe, Entry.new, totalOf, Observation.failures]
  latencyCount := by rw [observe_latencyCount]; simp [Entry.new, totalOf]
  latencySumUS := by
    rw [observe_latencySumUS (Entry.new o) o 0 rfl]
    simp [totalOf]
  firstSeen := by simp [GoTime.earliest?, Entry.observe, Entry.new]
  lastSeen := by simp [GoTime.latest?, Entry.observe, Entry.new]

theorem Entry.Collects.observe {e : Entry} {os : List Observation} (h : e.Collects os)
    (o : Observation) : (e.observe o).Collects (os ++ [o]) where
  endpoints := by
    obtain ⟨o', ho', hends⟩ := h.endpoints
    exact ⟨o', List.mem_append_left _ ho', hends⟩
  count := by
    rw [totalOf_concat, ← h.count]
    simp only [Entry.observe, Observation.successes]
    split <;> omega
  failedCount := by
    rw [totalOf_concat, ← h.failedCount]
    simp only [Entry.observe, Observation.failures]
    split <;> omega
  latencyCount := by rw [totalOf_concat, ← h.latencyCount, observe_latencyCount]
  latencySumUS := by
    rw [totalOf_concat]
    exact observe_latencySumUS e o _ h.latencySumUS
  firstSeen := by
    rw [List.map_append, List.map_singleton, GoTime.earliest?_concat, h.firstSeen]
    rfl
  lastSeen := by
    rw [List.map_append, List.map_singleton, GoTime.latest?_concat, h.lastSeen]
    rfl

/-- The observations of a key, in the order they came. -/
def ofKey (k : Key) (os : List Observation) : List Observation := os.filter (fun o => o.key = k)

/-- **Collecting**: after filing `os` the map holds an entry for exactly the keys observed,
    and each entry collects the observations of its key. -/
theorem foldl_observeInto_collects (os : List Observation) (k : Key) :
    match (os.foldl observeInto .empty).get? k with
    | none => ofKey k os = []
    | some e => e.Collects (ofKey k os) := by
  have hfold : ∀ l : List Observation,
      match l.foldl (fun v o => some ((v.getD (Entry.new o)).observe o)) none with
      | none => l = []
      | some e => e.Collects l := by
    intro l
    induction l using List.reverseRecOn with
    | nil => rfl
    | append_singleton l o ih =>
      rw [List.foldl_append]
      cases hl : l.foldl (fun v o => some ((v.getD (Entry.new o)).observe o)) none with
      | none =>
        rw [hl] at ih
        subst ih
        exact .single o
      | some e =>
        rw [hl] at ih
        exact Entry.Collects.observe ih o
  have hget := Dict.get?_foldl_upsert Observation.key
    (fun o existing => (existing.getD (Entry.new o)).observe o) os .empty k
  have heq : (os.foldl observeInto .empty).get? k = _ := hget
  rw [heq]
  exact hfold (ofKey k os)

/-! ### Runs of events and flushes -/

/-- The identity an agent runs under; neither id is empty or contains the separator. -/
structure Identity where
  clusterID : String
  agentID : String
  cluster_segment : IsSegment clusterID
  agent_segment : IsSegment agentID

/-- What can happen to the aggregator in `run`: a record arrives, resolved against the caches
    as they are then, or the flush loop takes the interval. -/
inductive Input where
  | event (caches : Caches) (clock : Clock) (raw : RawEvent)
  | flush (intervalSeconds : Int) (now : WallReading) (ulid : Ulid)

namespace Pipeline

variable (ident : Identity) (nodeName : String) (infraPorts : List UInt16)

/-- The aggregator after one input. A record that does not decode adds nothing. -/
def step (a : Aggregator) : Input → Aggregator
  | .event caches clock raw =>
    match decode clock raw with
    | .error _ => a
    | .ok ev => handleEvent ⟨ident.clusterID, caches⟩ nodeName a ev
  | .flush intervalSeconds now ulid => (a.flush intervalSeconds now ulid).1

/-- The aggregator after a sequence of inputs. -/
def run (inputs : List Input) : Aggregator :=
  inputs.foldl (step ident nodeName) (.new ident.clusterID ident.agentID infraPorts)

/-- The observation an input contributes to the graph, if `Add` keeps it. -/
def keptObservation : Input → Option Observation
  | .event caches clock raw =>
    match decode clock raw with
    | .error _ => none
    | .ok ev =>
      let r : Resolver := ⟨ident.clusterID, caches⟩
      if r.originatesElsewhere ev.srcIP nodeName then none
      else if verdict infraPorts (r.observation ev) = .kept then some (r.observation ev)
      else none
  | .flush _ _ _ => none

/-- The observations kept since the last flush. -/
def sinceFlush (inputs : List Input) : List Observation :=
  inputs.foldl (fun os input =>
    match input with
    | .flush _ _ _ => []
    | _ => os ++ (keptObservation ident nodeName infraPorts input).toList) []

/-- What `Add` and `Flush` never change. -/
def Configured (a : Aggregator) : Prop :=
  a.clusterID = ident.clusterID ∧ a.agentID = ident.agentID ∧ a.infraPorts = infraPorts

end Pipeline

theorem Aggregator.add_edges (a : Aggregator) (obs : Observation) :
    (a.add obs).edges =
      if verdict a.infraPorts obs = .kept then observeInto a.edges obs else a.edges := by
  unfold Aggregator.add
  cases verdict a.infraPorts obs <;> rfl

theorem Aggregator.add_config (a : Aggregator) (obs : Observation) :
    (a.add obs).clusterID = a.clusterID ∧ (a.add obs).agentID = a.agentID ∧
      (a.add obs).infraPorts = a.infraPorts := by
  unfold Aggregator.add
  cases verdict a.infraPorts obs <;> exact ⟨rfl, rfl, rfl⟩

theorem Aggregator.flush_fst (a : Aggregator) (intervalSeconds : Int) (now : WallReading)
    (ulid : Ulid) :
    (a.flush intervalSeconds now ulid).1.edges = .empty ∧
      (a.flush intervalSeconds now ulid).1.clusterID = a.clusterID ∧
      (a.flush intervalSeconds now ulid).1.agentID = a.agentID ∧
      (a.flush intervalSeconds now ulid).1.infraPorts = a.infraPorts := by
  unfold Aggregator.flush
  simp only
  split <;> exact ⟨rfl, rfl, rfl, rfl⟩

namespace Pipeline

variable (ident : Identity) (nodeName : String) (infraPorts : List UInt16)

/-- One input keeps the configuration and files what it contributes. -/
theorem step_spec {a : Aggregator} (hcfg : Configured ident infraPorts a) (input : Input) :
    Configured ident infraPorts (step ident nodeName a input) ∧
    (step ident nodeName a input).edges =
      match input with
      | .flush _ _ _ => .empty
      | _ => (keptObservation ident nodeName infraPorts input).toList.foldl observeInto a.edges := by
  obtain ⟨hc, ha, hp⟩ := hcfg
  cases input with
  | flush i now ulid =>
    obtain ⟨he, h₁, h₂, h₃⟩ := a.flush_fst i now ulid
    exact ⟨⟨h₁.trans hc, h₂.trans ha, h₃.trans hp⟩, he⟩
  | event caches clock raw =>
    simp only [step, keptObservation]
    cases decode clock raw with
    | error m => exact ⟨⟨hc, ha, hp⟩, rfl⟩
    | ok ev =>
      simp only [handleEvent]
      split
      · exact ⟨⟨hc, ha, hp⟩, rfl⟩
      · obtain ⟨h₁, h₂, h₃⟩ := a.add_config (Resolver.observation ⟨ident.clusterID, caches⟩ ev)
        refine ⟨⟨h₁.trans hc, h₂.trans ha, h₃.trans hp⟩, ?_⟩
        rw [Aggregator.add_edges, hp]
        split <;> rfl

/-- **The map collects the interval**: after any run it is what filing the observations kept
    since the last flush makes of an empty map. -/
theorem run_spec (inputs : List Input) :
    Configured ident infraPorts (run ident nodeName infraPorts inputs) ∧
    (run ident nodeName infraPorts inputs).edges =
      (sinceFlush ident nodeName infraPorts inputs).foldl observeInto .empty := by
  induction inputs using List.reverseRecOn with
  | nil => exact ⟨⟨rfl, rfl, rfl⟩, rfl⟩
  | append_singleton inputs input ih =>
    have hrun : run ident nodeName infraPorts (inputs ++ [input]) =
        step ident nodeName (run ident nodeName infraPorts inputs) input := by
      simp [run]
    obtain ⟨hcfg, hedges⟩ := step_spec ident nodeName infraPorts ih.1 input
    rw [hrun]
    refine ⟨hcfg, ?_⟩
    rw [hedges, ih.2]
    cases input <;> simp [sinceFlush]

end Pipeline

/-! ### What `Validate` says of a flushed batch -/

/-- What is known of every kept observation, whatever the record and the caches said. -/
structure Observation.Ready (o : Observation) : Prop where
  source : (nodeRef o.source).Valid
  target : (nodeRef o.target).Valid
  protocol : o.protocol = protocolTCP
  timestamp : -2 ^ 63 ≤ o.timestamp.wall ∧ o.timestamp.wall < 2 ^ 64

/-- A kept observation has both ids. -/
theorem ids_of_kept {infraPorts : List UInt16} {o : Observation}
    (h : verdict infraPorts o = .kept) : o.source.id ≠ "" ∧ o.target.id ≠ "" := by
  unfold verdict at h
  split_ifs at h with h₁ h₂ h₃ hblank
  exact not_or.mp hblank

theorem Pipeline.keptObservation_ready {ident : Identity} {nodeName : String}
    {infraPorts : List UInt16} {input : Input} {o : Observation}
    (h : keptObservation ident nodeName infraPorts input = some o) : o.Ready := by
  cases input with
  | flush i now ulid => cases h
  | event caches clock raw =>
    simp only [keptObservation] at h
    cases hd : decode clock raw with
    | error m => rw [hd] at h; cases h
    | ok ev =>
      rw [hd] at h
      simp only at h
      split at h
      · cases h
      · split at h
        · next hkept =>
          cases h
          obtain ⟨hs, ht⟩ := ids_of_kept hkept
          have hsource := Resolver.resolveSource_wellNamed ⟨ident.clusterID, caches⟩ ev.srcIP
          have htarget :=
            Resolver.resolveDestination_wellNamed ⟨ident.clusterID, caches⟩ ev.dstIP ev.dstPort
          exact
            { source := ⟨hs, hsource.name_nonempty hs, hsource.kind_allowed hs⟩
              target := ⟨ht, htarget.name_nonempty ht, htarget.kind_allowed ht⟩
              protocol := rfl
              timestamp := (decode_decoded hd).timestamp_range }
        · cases h

theorem Pipeline.sinceFlush_ready (ident : Identity) (nodeName : String)
    (infraPorts : List UInt16) (inputs : List Input) :
    ∀ o ∈ sinceFlush ident nodeName infraPorts inputs, o.Ready := by
  induction inputs using List.reverseRecOn with
  | nil => intro o ho; cases ho
  | append_singleton inputs input ih =>
    intro o ho
    cases input with
    | flush i now ulid => simp [sinceFlush] at ho
    | event caches clock raw =>
      have hsplit : sinceFlush ident nodeName infraPorts (inputs ++ [.event caches clock raw]) =
          sinceFlush ident nodeName infraPorts inputs ++
            (keptObservation ident nodeName infraPorts (.event caches clock raw)).toList := by
        simp [sinceFlush]
      rw [hsplit, List.mem_append, Option.mem_toList] at ho
      rcases ho with ho | ho
      · exact ih o ho
      · exact keptObservation_ready ho

/-- What has to hold of the observations of one edge for `Validate` to accept it: a port, a
    latency sum that did not overflow, and a first observation that is not, on the wall
    clock, after the last. -/
structure EdgeAcceptable (os : List Observation) (k : Key) : Prop where
  port : k.destinationPort ≠ 0
  latency : 0 ≤ wrapInt64 (totalOf Observation.latencyUS (ofKey k os))
  order : ∀ first ∈ GoTime.earliest? ((ofKey k os).map Observation.timestamp),
    ∀ last ∈ GoTime.latest? ((ofKey k os).map Observation.timestamp), first.wall ≤ last.wall

theorem mem_ofKey {k : Key} {os : List Observation} {o : Observation} :
    o ∈ ofKey k os ↔ o ∈ os ∧ o.key = k := by
  simp [ofKey]

theorem isZero_eq_false_of_lower {t : GoTime} (h : -2 ^ 63 ≤ t.wall) : t.isZero = false := by
  have : t.wall ≠ GoTime.zeroWall := by
    unfold GoTime.zeroWall
    omega
  simpa [GoTime.isZero] using this

/-- **One edge**: `Validate` accepts the edge of a key exactly when its observations are
    acceptable. Ids, names, kinds, outcome counts and sample counts are always in order. -/
theorem toObservation_valid_iff {os : List Observation} {k : Key} {e : Entry}
    (hready : ∀ o ∈ os, o.Ready) (hcollects : e.Collects (ofKey k os)) :
    (toObservation (k, e)).Valid ↔ EdgeAcceptable os k := by
  have hts : ∀ t ∈ (ofKey k os).map Observation.timestamp, t.isZero = false := by
    intro t ht
    obtain ⟨o, ho, rfl⟩ := List.mem_map.mp ht
    exact isZero_eq_false_of_lower (hready o (mem_ofKey.mp ho).1).timestamp.1
  constructor
  · intro h
    refine ⟨?_, ?_, ?_⟩
    · intro hzero
      have := h.port_range.1
      simp [toObservation, hzero] at this
    · have := h.latency.2.2.1
      rwa [← hcollects.latencySumUS]
    · intro first hfirst last hlast
      rw [hcollects.firstSeen] at hfirst
      rw [hcollects.lastSeen] at hlast
      cases hfirst
      cases hlast
      have := h.interval
      simpa [toObservation] using this
  · rintro ⟨hport, hlatency, horder⟩
    obtain ⟨o, ho, hsource, htarget⟩ := hcollects.endpoints
    obtain ⟨homem, hokey⟩ := mem_ofKey.mp ho
    have hor := hready o homem
    have hcount := hcollects.count
    have hfailed := hcollects.failedCount
    have hsamples := hcollects.latencyCount
    have hsucc := totalOf_nonneg (f := Observation.successes)
      (by intro o; unfold Observation.successes; split <;> omega) (ofKey k os)
    have hfail := totalOf_nonneg (f := Observation.failures)
      (by intro o; unfold Observation.failures; split <;> omega) (ofKey k os)
    have hsamp := totalOf_nonneg (f := Observation.samples)
      (by intro o; unfold Observation.samples; split <;> omega) (ofKey k os)
    have hle := totalOf_le Observation.samples_le_successes (ofKey k os)
    have htotal := total_outcomes (ofKey k os)
    have hpos : 0 < (ofKey k os).length := List.length_pos_of_mem ho
    have hnone : totalOf Observation.samples (ofKey k os) = 0 → e.latencySumUS = 0 := by
      intro h0
      rw [hcollects.latencySumUS, total_latency_of_no_samples h0]
      rfl
    have hp : k.destinationPort.toNat ≠ 0 := by
      intro h0
      exact hport (UInt16.toNat_inj.mp (h0.trans rfl))
    have hplt : k.destinationPort.toNat < 65536 := k.destinationPort.toNat_lt
    exact
      { source := by simpa only [toObservation, hsource] using hor.source
        target := by simpa only [toObservation, htarget] using hor.target
        protocol := by
          have : k.protocol = o.protocol := by rw [← hokey]; rfl
          exact this.trans hor.protocol
        port_range := by simp only [toObservation]; omega
        outcome_present := by
          refine ⟨by simp only [toObservation]; omega, ?_⟩
          by_cases h0 : e.count = 0
          · right
            exact ⟨e.failedCount, rfl, by omega⟩
          · exact .inl h0
        failed_nonneg := by
          intro failed hf
          have : e.failedCount = failed := Option.some.inj hf
          omega
        latency := by
          refine ⟨by simp only [toObservation]; omega, by simp only [toObservation]; omega, ?_, ?_⟩
          · simpa only [toObservation, hcollects.latencySumUS] using hlatency
          · intro h0
            exact hnone (hsamples.symm.trans h0)
        sent_nonneg := by intro sent h; cases h
        received_nonneg := by intro received h; cases h
        times_set :=
          ⟨hts e.firstSeen (GoTime.mem_of_earliest? hcollects.firstSeen),
            hts e.lastSeen (GoTime.mem_of_latest? hcollects.lastSeen)⟩
        interval := by
          have := horder _ hcollects.firstSeen _ hcollects.lastSeen
          simpa [toObservation] using this }

/-! ### Flushed batches -/

/-- Every observed key has an entry. -/
theorem get?_foldl_observeInto {os : List Observation} {o : Observation} (ho : o ∈ os) :
    ∃ entry, (os.foldl observeInto .empty).get? o.key = some entry := by
  have hk := foldl_observeInto_collects os o.key
  cases hget : (os.foldl observeInto .empty).get? o.key with
  | some entry => exact ⟨entry, rfl⟩
  | none =>
    rw [hget] at hk
    have : o ∈ ofKey o.key os := mem_ofKey.mpr ⟨ho, rfl⟩
    rw [hk] at this
    cases this

/-- What `Flush` hands over: the fixed fields, and one edge per entry of the map. -/
theorem Aggregator.flush_snd {a : Aggregator} {intervalSeconds : Int} {now : WallReading}
    {ulid : Ulid} {batch : IngestBatch}
    (h : (a.flush intervalSeconds now ulid).2 = some batch) :
    batch.schemaVersion = Agent.schemaVersion ∧ batch.clusterID = a.clusterID ∧
    batch.agentID = a.agentID ∧ batch.batchID = ulid.string ∧
    batch.observedAt = now.time.utc ∧ batch.intervalSeconds = intervalSeconds ∧
    batch.edges = sortOn EdgeObservation.sortKey (a.edges.entries.map toObservation) := by
  unfold Aggregator.flush at h
  simp only at h
  split at h
  · cases h
  · cases h
    exact ⟨rfl, rfl, rfl, rfl, rfl, rfl, rfl⟩

/-- The edges of a flushed batch are those of the observed keys. -/
theorem mem_flushed_edges {os : List Observation} {e : EdgeObservation} :
    e ∈ sortOn EdgeObservation.sortKey
        ((os.foldl observeInto .empty).entries.map toObservation) ↔
      ∃ k entry, (os.foldl observeInto .empty).get? k = some entry ∧
        e = toObservation (k, entry) := by
  rw [mem_sortOn, List.mem_map]
  constructor
  · rintro ⟨⟨k, entry⟩, hmem, rfl⟩
    exact ⟨k, entry, Dict.get?_eq_some_iff.mpr hmem, rfl⟩
  · rintro ⟨k, entry, hget, rfl⟩
    exact ⟨(k, entry), Dict.get?_eq_some_iff.mp hget, rfl⟩

/-- A flushed batch is valid exactly when every edge observed since the last flush is
    acceptable. -/
theorem flushed_valid_iff {ident : Identity} {nodeName : String} {infraPorts : List UInt16}
    {inputs : List Input} {intervalSeconds : Int}
    (hinterval : 1 ≤ intervalSeconds ∧ intervalSeconds ≤ 3600) {now : WallReading} {ulid : Ulid}
    {batch : IngestBatch}
    (hflush : ((Pipeline.run ident nodeName infraPorts inputs).flush
      intervalSeconds now ulid).2 = some batch) :
    batch.Valid ↔
      ∀ o ∈ Pipeline.sinceFlush ident nodeName infraPorts inputs,
        EdgeAcceptable (Pipeline.sinceFlush ident nodeName infraPorts inputs) o.key := by
  obtain ⟨⟨hcluster, hagent, -⟩, hedges⟩ :=
    Pipeline.run_spec ident nodeName infraPorts inputs
  have hready := Pipeline.sinceFlush_ready ident nodeName infraPorts inputs
  obtain ⟨h₁, h₂, h₃, h₄, h₅, h₆, h₇⟩ := Aggregator.flush_snd hflush
  rw [hedges] at h₇
  set os := Pipeline.sinceFlush ident nodeName infraPorts inputs with hos
  have hcollects := foldl_observeInto_collects os
  constructor
  · intro hvalid o ho
    -- the key of a kept observation has an entry, and so an edge in the batch
    obtain ⟨entry, hget⟩ := get?_foldl_observeInto ho
    have hk := hcollects o.key
    rw [hget] at hk
    refine (toObservation_valid_iff hready hk).mp (hvalid.edges _ ?_)
    rw [h₇]
    exact mem_flushed_edges.mpr ⟨o.key, entry, hget, rfl⟩
  · intro haccept
    refine
      { schemaVersion := h₁
        clusterID_nonempty := by rw [h₂, hcluster]; exact ident.cluster_segment.1
        agentID_nonempty := by rw [h₃, hagent]; exact ident.agent_segment.1
        batchID_ulid := by rw [h₄]; exact ulid.wellFormed
        observedAt_set := by
          rw [h₅]
          exact isZero_eq_false_of_lower (by have := now.range.1; simp only [GoTime.utc_wall]; omega)
        interval_range := by rw [h₆]; exact hinterval
        edges := ?_ }
    intro e he
    rw [h₇] at he
    obtain ⟨k, entry, hget, rfl⟩ := mem_flushed_edges.mp he
    have hk := hcollects k
    rw [hget] at hk
    obtain ⟨o, ho, -⟩ := hk.endpoints
    obtain ⟨homem, rfl⟩ := mem_ofKey.mp ho
    exact (toObservation_valid_iff hready hk).mpr (haccept o homem)

/-- **One bad observation costs an interval**: after any run of events and flushes, the next
    flushed batch passes `Validate`, and so is not discarded, exactly when every edge observed
    since the last flush is acceptable. -/
theorem flush_validates_iff (quote : String → String) (ident : Identity) (nodeName : String)
    (infraPorts : List UInt16) (inputs : List Input) (intervalSeconds : Int)
    (hinterval : 1 ≤ intervalSeconds ∧ intervalSeconds ≤ 3600) (now : WallReading) (ulid : Ulid)
    (batch : IngestBatch)
    (hflush : ((Pipeline.run ident nodeName infraPorts inputs).flush
      intervalSeconds now ulid).2 = some batch) :
    batch.validate quote = .ok () ↔
      ∀ o ∈ Pipeline.sinceFlush ident nodeName infraPorts inputs,
        EdgeAcceptable (Pipeline.sinceFlush ident nodeName infraPorts inputs) o.key := by
  rw [IngestBatch.validate_eq_ok_iff, flushed_valid_iff hinterval hflush]

/-! ### Two small runs -/

/-- Two StatefulSet pods of the namespace `shop`. -/
def sampleCaches : Caches where
  podByIP := fun ip =>
    if ip = .v4 10 0 0 1 then some ⟨"shop", "web-0", ⟨"StatefulSet", "web"⟩⟩
    else if ip = .v4 10 0 0 2 then some ⟨"shop", "db-0", ⟨"StatefulSet", "db"⟩⟩
    else none
  serviceByClusterIP := fun _ => none
  servicesForEndpoint := fun _ _ => []
  endpointsForService := fun _ => []
  nodeForPodIP := fun _ => some "n1"
  resolveOwner := fun _ _ => none
  isNodeIP := fun _ => false

def sampleIdentity : Identity where
  clusterID := "c"
  agentID := "topology-agent/n1"
  cluster_segment := by unfold IsSegment; decide
  agent_segment := by unfold IsSegment; decide

def sampleNow : WallReading := ⟨⟨1000000000000000000, some 1000⟩, by decide⟩

def sampleUlid : Ulid := ⟨"00000000000000000000000000", by decide⟩

def otherUlid : Ulid := ⟨"00000000000000000000000001", by decide⟩

/-- A connection from `web` to port `port` of `db` that was refused. -/
def refusedConnection (port : UInt16) : Input :=
  .event sampleCaches ⟨sampleNow, 5000⟩
    { timestampNs := 5000, pid := 1, saddr := (10, 0, 0, 1), daddr := (10, 0, 0, 2),
      sport := 40000, dport := port, family := 2, protocol := 6, version := 2, outcome := 1,
      durationKnown := 0, durationUs := 0 }

/-- An interval without a bad observation is delivered. -/
theorem flush_validates_refused_5432 :
    ∃ batch, ((Pipeline.run sampleIdentity "n1" [] [refusedConnection 5432]).flush
        10 sampleNow sampleUlid).2 = some batch ∧ batch.validate id = .ok () := by
  refine ⟨_, rfl, (flush_validates_iff id sampleIdentity "n1" [] [refusedConnection 5432] 10
    (by decide) sampleNow sampleUlid _ rfl).mpr ?_⟩
  intro o ho
  have hkey : o.key.destinationPort = 5432 ∧ o.key = ⟨"k8s:c:shop:StatefulSet:web",
      "k8s:c:shop:StatefulSet:db", "TCP", 5432⟩ := by
    revert o
    decide
  rw [hkey.2]
  exact ⟨by decide, by decide, by decide⟩

/-- A connection to port 0 costs the interval: the batch also carries the edge to port 5432,
    and `emitBatch` discards both. -/
theorem flush_rejected_on_port_zero :
    ∃ batch, ((Pipeline.run sampleIdentity "n1" []
        [refusedConnection 5432, refusedConnection 0]).flush 10 sampleNow sampleUlid).2 = some batch ∧
      batch.edges.map EdgeObservation.destinationPort = [0, 5432] ∧
      batch.validate id = .error "edges[0]: destination_port 0 out of range 1..65535" := by
  exact ⟨_, rfl, by decide +kernel, by decide +kernel⟩

end TopologyVisualizer.Agent
